import RealmSetup.Proofs.Admin.Subjects
import RealmSetup.Realm

/-!
# Edits of documents

An *edit* gives a user something to do or takes it back, or enables or disables a required action.  Each
reads a document, changes one field and writes the document back, unless the field is as wanted already.

`Edit.apply` says what an edit makes of a user or a required action and `Edit.isDone` whether there is
nothing to do.  `Edit.Ready` says what an edit has to find on the server, and `leads_perform` that the
client then does just that to the document; other edits still find what they need afterwards
(`Ready.revised`).
-/

namespace RealmSetup

open Json Json.Record

/-! ## Edits -/

/-- A change to what a user has to do, or to whether a required action is in use. -/
inductive Edit where
  /-- Gives a user something to do. -/
  | addPending (realm userId aliasName : String)
  /-- Takes it back. -/
  | removePending (realm userId aliasName : String)
  | enable (realm aliasName : String)
  | disable (realm aliasName : String)

namespace Edit

/-- What a client does. -/
def perform (admin : AdminClient) : Edit → SiteAttempt Unit
  | addPending realm userId aliasName =>
    Provisioner.addUserRequiredAction admin realm userId aliasName
  | removePending realm userId aliasName =>
    Provisioner.removeUserRequiredAction admin realm userId aliasName
  | enable realm aliasName => Provisioner.enableRequiredAction admin realm aliasName
  | disable realm aliasName => Provisioner.disableRequiredAction admin realm aliasName

/-- The address of the document that is edited. -/
def target (admin : AdminClient) : Edit → Url
  | addPending realm userId _ => admin.endpoint [realm, "users", userId]
  | removePending realm userId _ => admin.endpoint [realm, "users", userId]
  | enable realm aliasName =>
    admin.endpoint [realm, "authentication", "required-actions", aliasName]
  | disable realm aliasName =>
    admin.endpoint [realm, "authentication", "required-actions", aliasName]

/-- The address of the list that is read first. -/
def listing? (admin : AdminClient) : Edit → Option Url
  | enable realm _ => some (admin.endpoint [realm, "authentication", "required-actions"])
  | _ => none

/-- The kind and the name of what is edited. -/
def Fits : Edit → Subject → Prop
  | addPending _ userId _, .user u => u.id = userId
  | removePending _ userId _, .user u => u.id = userId
  | enable _ aliasName, .action a => a.aliasName = aliasName
  | disable _ aliasName, .action a => a.aliasName = aliasName
  | _, _ => False

/-- What an edit makes of what a user has to do. -/
def pending : Edit → List String → List String
  | addPending _ _ aliasName, todo => if aliasName ∈ todo then todo else todo ++ [aliasName]
  | removePending _ _ aliasName, todo => todo.filter fun a => a ≠ aliasName
  | _, todo => todo

/-- What an edit makes of whether a required action is enabled and whether new users are given it. -/
def flags : Edit → Bool × Bool → Bool × Bool
  | enable _ _, (_, byDefault) => (true, byDefault)
  | disable _ _, _ => (false, false)
  | _, flags => flags

/-- What an edit makes of a user or a required action. -/
def apply (e : Edit) : Subject → Subject
  | .user u => .user { u with requiredActions := e.pending u.requiredActions }
  | .action a =>
    let flags := e.flags (a.enabled, a.defaultAction)
    .action { a with enabled := flags.1, defaultAction := flags.2 }

/-- Whether everything is as wanted already. -/
def isDone (e : Edit) : Subject → Bool
  | .user u => e.pending u.requiredActions = u.requiredActions
  | .action a => e.flags (a.enabled, a.defaultAction) = (a.enabled, a.defaultAction)

theorem apply_of_isDone {e : Edit} {x : Subject} (h : e.isDone x = true) : e.apply x = x := by
  cases x with
  | user u =>
    have same : e.pending u.requiredActions = u.requiredActions := of_decide_eq_true h
    rw [apply, same]
  | action a =>
    have same : e.flags (a.enabled, a.defaultAction) = (a.enabled, a.defaultAction) :=
      of_decide_eq_true h
    rw [apply, same]

theorem alters_apply (e : Edit) (x : Subject) : x.Alters (e.apply x) := by
  cases x with
  | user u => exact .user rfl rfl
  | action a => exact .action rfl rfl

theorem Fits.alters {e : Edit} {x x' : Subject} (h : e.Fits x) (alters : x.Alters x') : e.Fits x' := by
  cases alters with
  | user name _ => cases e <;> first | exact name.trans h | cases h
  | action name _ => cases e <;> first | exact name.trans h | cases h

/-! ## One edit -/

/-- The documents after an edit of the one under an address. -/
def revised (e : Edit) (url : Url) (x : Subject) (s : Documents) : Documents :=
  if e.isDone x then s else s.write url (e.apply x).json

section Step

variable {τ : Type} {supply : TokenSupply τ} {server : DocumentServer} {admin : AdminClient}
  {s : Documents} {realm userId aliasName : String} {j : Json}

/-- Writing only what is not as wanted makes the edit. -/
theorem leads_revised {e : Edit} {url : Url} {x : Subject} {done : Prop} [Decidable done]
    {put : SiteAttempt Unit} (same : e.isDone x = true ↔ done)
    (write : ¬done → Leads supply server put s () (s.write url (e.apply x).json)) :
    Leads supply server (if done then pure () else put) s () (e.revised url x s) := by
  by_cases known : done
  · rw [if_pos known, revised, if_pos (same.2 known)]
    exact leads_pure () s
  · rw [if_neg known, revised, if_neg (mt same.1 known)]
    exact write known

theorem leads_addPending {u : UserRecord} (isUser : u.id = userId)
    (apart : server.listed (admin.endpoint [realm, "users", userId]) = none)
    (stored : s.stored (admin.endpoint [realm, "users", userId]) = some (.user j)) (plain : Plain j)
    (finds : Finds UserRecord.decoder j u) :
    Leads supply server ((addPending realm userId aliasName).perform admin) s ()
      ((addPending realm userId aliasName).revised (admin.endpoint [realm, "users", userId])
        (.user u) s) := by
  refine leads_observe _ _ ((leads_getJson (seen?_of_stored apart stored) plain finds).bind ?_)
  subst isUser
  refine leads_revised ?_ fun fresh => ?_
  · simp [isDone, pending]
  · have edited : (addPending realm u.id aliasName).apply (.user u) =
        .user { u with requiredActions := u.requiredActions ++ [aliasName] } := by
      rw [apply, pending, if_neg (by simpa using fresh)]
    rw [edited]
    exact leads_put stored _

theorem leads_removePending {u : UserRecord} (isUser : u.id = userId)
    (apart : server.listed (admin.endpoint [realm, "users", userId]) = none)
    (stored : s.stored (admin.endpoint [realm, "users", userId]) = some (.user j)) (plain : Plain j)
    (finds : Finds UserRecord.decoder j u) :
    Leads supply server ((removePending realm userId aliasName).perform admin) s ()
      ((removePending realm userId aliasName).revised (admin.endpoint [realm, "users", userId])
        (.user u) s) := by
  refine leads_observe _ _ ((leads_getJson (seen?_of_stored apart stored) plain finds).bind ?_)
  subst isUser
  refine leads_revised ?_ fun fresh => ?_
  · simp [isDone, pending, List.length_filter_eq_length_iff]
  · exact leads_put stored _

theorem leads_disable {a : RequiredAction} (isAction : a.aliasName = aliasName)
    (apart : server.listed
      (admin.endpoint [realm, "authentication", "required-actions", aliasName]) = none)
    (stored : s.stored (admin.endpoint [realm, "authentication", "required-actions", aliasName]) =
      some (.action j)) (plain : Plain j) (finds : Finds RequiredAction.decoder j a) :
    Leads supply server ((disable realm aliasName).perform admin) s ()
      ((disable realm aliasName).revised
        (admin.endpoint [realm, "authentication", "required-actions", aliasName]) (.action a) s) := by
  refine leads_observe _ _
    ((leads_getOptionalJson (seen?_of_stored apart stored) plain finds).bind ?_)
  subst isAction
  refine leads_revised ?_ fun fresh => ?_
  · simp [isDone, flags]
  · exact leads_put stored _

/-- The documents of a list are all found in it. -/
theorem exists_found {urls : List Url}
    (each : ∀ url ∈ urls, ∃ d a, s.stored url = some d ∧ d.About (deepest - 1) (.action a)) :
    ∃ found : List RequiredAction,
      (∀ j ∈ urls.filterMap s.value?, Plain j) ∧
      List.Forall₂ (Finds (RequiredAction.decoderIn (deepest - 1))) (urls.filterMap s.value?) found ∧
      ∀ url ∈ urls, ∀ d a, s.stored url = some d → d.About (deepest - 1) (.action a) → a ∈ found := by
  induction urls with
  | nil => exact ⟨[], nofun, .nil, nofun⟩
  | cons url urls ih =>
    obtain ⟨d, a, stored, about⟩ := each url List.mem_cons_self
    obtain ⟨found, plain, finds, known⟩ := ih fun url' mem => each url' (List.mem_cons_of_mem url mem)
    cases about with
    | @action j a plainFirst findsFirst =>
      have value : s.value? url = some j := by
        rw [Documents.value?, stored]
        rfl
      rw [List.filterMap_cons_some value]
      refine ⟨a :: found, List.forall_mem_cons.2 ⟨plainFirst, plain⟩, .cons findsFirst finds, ?_⟩
      intro url' mem d' a' stored' about'
      rcases List.mem_cons.1 mem with rfl | mem
      · cases stored.symm.trans stored'
        cases about' with
        | action _ finds' => exact findsFirst.unique plainFirst finds' ▸ List.mem_cons_self
      · exact List.mem_cons_of_mem a (known url' mem d' a' stored' about')

theorem leads_enable {a : RequiredAction} {urls : List Url} (isAction : a.aliasName = aliasName)
    (apart : server.listed
      (admin.endpoint [realm, "authentication", "required-actions", aliasName]) = none)
    (stored : s.stored (admin.endpoint [realm, "authentication", "required-actions", aliasName]) =
      some (.action j)) (plain : Plain j) (finds : Finds RequiredAction.decoder j a)
    (listed : server.listed (admin.endpoint [realm, "authentication", "required-actions"]) = some urls)
    (mem : admin.endpoint [realm, "authentication", "required-actions", aliasName] ∈ urls)
    (each : ∀ url ∈ urls, ∃ d a, s.stored url = some d ∧ d.About (deepest - 1) (.action a)) :
    Leads supply server ((enable realm aliasName).perform admin) s ()
      ((enable realm aliasName).revised
        (admin.endpoint [realm, "authentication", "required-actions", aliasName]) (.action a) s) := by
  obtain ⟨found, plainAll, findsAll, all⟩ := exists_found each
  have known : (found.any fun a => a.aliasName = aliasName) = true := by
    obtain ⟨d, a', stored', about⟩ := each _ mem
    have inList := all _ mem d a' stored' about
    cases stored.symm.trans stored'
    obtain rfl : a' = a := by
      cases about.mono (Nat.sub_le deepest 1) with
      | action _ finds' => exact finds'.unique plain finds
    exact List.any_eq_true.2 ⟨a', inList, decide_eq_true isAction⟩
  have seen : server.seen? s (admin.endpoint [realm, "authentication", "required-actions"]) =
      some (.array (urls.filterMap s.value?)) := by
    rw [DocumentServer.seen?, listed]
  refine leads_observe _ _ ((leads_getJson seen (.array plainAll) (finds_list findsAll)).bind ?_)
  rw [known]
  refine (leads_getOptionalJson (seen?_of_stored apart stored) plain finds).bind ?_
  subst isAction
  refine leads_revised ?_ fun fresh => ?_
  · simp [isDone, flags]
  · exact leads_put stored _

end Step

/-! ## Edits that find what they need -/

/-- An edit finds the document that it edits, and, where it reads the list first, that document on it and
all the others of the list in their shape. -/
structure Ready (e : Edit) (admin : AdminClient) (server : DocumentServer) (s : Documents) : Prop where
  /-- The document is about what is to be edited. -/
  stored : ∃ d x, s.stored (e.target admin) = some d ∧ d.About deepest x ∧ e.Fits x
  /-- It does not stand where a list is to be seen. -/
  apart : server.listed (e.target admin) = none
  /-- The list names the document, and what it names is found. -/
  listing : ∀ url, e.listing? admin = some url → ∃ urls, server.listed url = some urls ∧
    e.target admin ∈ urls ∧
      ∀ url' ∈ urls, ∃ d a, s.stored url' = some d ∧ d.About (deepest - 1) (.action a)

section Steps

variable {τ : Type} {supply : TokenSupply τ} {server : DocumentServer} {admin : AdminClient}
  {s : Documents} {e : Edit} {d : Document} {x : Subject} {url : Url}

/-- An edit makes the document as wanted and leaves the others. -/
theorem leads_perform (ready : e.Ready admin server s) (stored : s.stored (e.target admin) = some d)
    (about : d.About deepest x) :
    Leads supply server (e.perform admin) s () (e.revised (e.target admin) x s) := by
  have fits : e.Fits x := by
    obtain ⟨d', x', stored', about', fits⟩ := ready.stored
    cases stored.symm.trans stored'
    exact about.unique about' ▸ fits
  cases about with
  | @user j u plain finds =>
    cases e with
    | addPending realm userId aliasName =>
      exact leads_addPending fits ready.apart stored plain finds
    | removePending realm userId aliasName =>
      exact leads_removePending fits ready.apart stored plain finds
    | enable realm aliasName => cases fits
    | disable realm aliasName => cases fits
  | @action j a plain finds =>
    cases e with
    | addPending realm userId aliasName => cases fits
    | removePending realm userId aliasName => cases fits
    | enable realm aliasName =>
      obtain ⟨urls, listed, mem, each⟩ := ready.listing _ rfl
      exact leads_enable fits ready.apart stored plain finds listed mem each
    | disable realm aliasName => exact leads_disable fits ready.apart stored plain finds

theorem stored_revised_of_ne {url' : Url} (other : url' ≠ url) :
    (e.revised url x s).stored url' = s.stored url' := by
  rw [revised]
  split
  · rfl
  · exact s.stored_write_of_ne other _

/-- The document that was edited is about what the edit makes of it. -/
theorem exists_stored_revised (e : Edit) (x : Subject) (stored : s.stored url = some d) :
    ∃ d', (e.revised url x s).stored url = some d' ∧
      d'.value = (if e.isDone x then d.value else (e.apply x).json) ∧
      ∀ room ≤ deepest, d.About room x → d'.About room (e.apply x) := by
  rw [revised]
  by_cases done : e.isDone x = true
  · rw [if_pos done, if_pos done, apply_of_isDone done]
    exact ⟨d, stored, rfl, fun _ _ h => h⟩
  · rw [if_neg done, if_neg done]
    exact ⟨d.replace (e.apply x).json, Documents.stored_write_self stored _, d.value_replace _,
      fun _ _ h => h.replace (alters_apply e x)⟩

/-- After an edit every document is about what it was about, in all but the field that is edited. -/
theorem exists_about_revised (e : Edit) (stored : s.stored url = some d) (about : d.About deepest x) {url' : Url}
    {d' : Document} {x' : Subject} {room : Nat} (le : room ≤ deepest) (stored' : s.stored url' = some d')
    (about' : d'.About room x') :
    ∃ d'' x'', (e.revised url x s).stored url' = some d'' ∧ d''.About room x'' ∧ x'.Alters x'' := by
  by_cases same : url' = url
  · subst same
    cases stored.symm.trans stored'
    obtain rfl := about.unique (about'.mono le)
    obtain ⟨d'', stored'', -, about''⟩ := exists_stored_revised e _ stored
    exact ⟨d'', e.apply x, stored'', about'' room le about', alters_apply e x⟩
  · exact ⟨d', x', (stored_revised_of_ne same).trans stored', about', .refl x'⟩

/-- Edits do not get in each other's way. -/
theorem Ready.revised {e' : Edit} (h : e'.Ready admin server s) (stored : s.stored url = some d)
    (about : d.About deepest x) : e'.Ready admin server (e.revised url x s) := by
  refine ⟨?_, h.apart, fun list isList => ?_⟩
  · obtain ⟨d', x', stored', about', fits⟩ := h.stored
    obtain ⟨d'', x'', stored'', about'', alters⟩ :=
      exists_about_revised e stored about (Nat.le_refl deepest) stored' about'
    exact ⟨d'', x'', stored'', about'', fits.alters alters⟩
  · obtain ⟨urls, listed, mem, each⟩ := h.listing list isList
    refine ⟨urls, listed, mem, fun url' mem' => ?_⟩
    obtain ⟨d', a, stored', about'⟩ := each url' mem'
    obtain ⟨d'', x'', stored'', about'', alters⟩ :=
      exists_about_revised e stored about (Nat.sub_le deepest 1) stored' about'
    cases alters with
    | action _ _ => exact ⟨d'', _, stored'', about''⟩

end Steps

end Edit

end RealmSetup
