import RealmSetup.Proofs.Admin.Edits

/-!
# Sequences of edits

Along a sequence of edits each document ends as the edits of it make it one after another, what is not
modelled stays, and exactly the changes are sent (`performAll_revises`).
-/

namespace RealmSetup

open Json Json.Record

namespace Edit

/-! ## Many edits -/

/-- What a client does for some edits, one after the other. -/
def performAll (admin : AdminClient) (edits : List Edit) : SiteAttempt Unit :=
  edits.forM (perform admin)

/-- What edits change: all that one of them makes that is not done already. -/
def changes : Subject → List Edit → List Subject
  | _, [] => []
  | x, e :: edits =>
    if e.isDone x then changes x edits else e.apply x :: changes (e.apply x) edits

/-- What was written to an address. -/
def sentTo (url : Url) (written : List (Url × Json)) : List Json :=
  (written.filter fun w => w.1 = url).map Prod.snd

/-- What edits make of a document about `x`, and what is sent for them. -/
structure Revision (d d' : Document) (x : Subject) (edits : List Edit) (sent : List Json) : Prop where
  /-- The document is about what the edits make, one after the other. -/
  about : d'.About deepest (edits.foldl (fun x e => e.apply x) x)
  /-- What is not modelled stays. -/
  kept : ∀ name, x.lacks name = true → d'.value.get? name = d.value.get? name
  /-- Every change is sent, and nothing else. -/
  sends : sent = (changes x edits).map Subject.json
  /-- The document says what was sent last. -/
  last : d'.value = sent.getLast?.getD d.value

/-- Without edits nothing changes. -/
theorem revision_nil {d : Document} {x : Subject} (about : d.About deepest x) :
    Revision d d x [] [] :=
  ⟨about, fun _ _ => rfl, rfl, rfl⟩

/-- An edit, and then others. -/
theorem Revision.cons {e : Edit} {edits : List Edit} {d d' d'' : Document} {x : Subject}
    {sent : List Json} (about : d.About deepest x) (about' : d'.About deepest (e.apply x))
    (value : d'.value = if e.isDone x then d.value else (e.apply x).json)
    (h : Revision d' d'' (e.apply x) edits sent) :
    Revision d d'' x (e :: edits) ((if e.isDone x then [] else [(e.apply x).json]) ++ sent) := by
  have alters := alters_apply e x
  refine ⟨h.about, fun name lacks => ?_, ?_, ?_⟩
  · have lacks' : (e.apply x).lacks name = true := by rwa [alters.lacks_eq]
    rw [h.kept name lacks', about'.get?_eq lacks', about.get?_eq lacks, alters.extra_eq]
  · rw [h.sends, changes]
    by_cases done : e.isDone x = true
    · rw [if_pos done, if_pos done, apply_of_isDone done, List.nil_append]
    · rw [if_neg done, if_neg done, List.map_cons, List.singleton_append]
  · rw [h.last, value, List.getLast?_append]
    by_cases done : e.isDone x = true
    · rw [if_pos done, if_pos done]
      cases sent.getLast? <;> rfl
    · rw [if_neg done, if_neg done]
      cases sent.getLast? <;> rfl

theorem sentTo_append (url : Url) (first second : List (Url × Json)) :
    sentTo url (first ++ second) = sentTo url first ++ sentTo url second := by
  rw [sentTo, List.filter_append, List.map_append]
  rfl

/-- What an edit sends. -/
def sending (e : Edit) (url : Url) (x : Subject) : List (Url × Json) :=
  if e.isDone x then [] else [(url, (e.apply x).json)]

theorem written_revised (e : Edit) (url : Url) (x : Subject) (s : Documents) :
    (e.revised url x s).written = s.written ++ e.sending url x := by
  rw [revised, sending]
  split
  · rw [List.append_nil]
  · rfl

theorem sentTo_sending_self (e : Edit) (url : Url) (x : Subject) :
    sentTo url (e.sending url x) = if e.isDone x then [] else [(e.apply x).json] := by
  rw [sending]
  split <;> simp [sentTo]

theorem sentTo_sending_of_ne (e : Edit) {url url' : Url} (other : url' ≠ url) (x : Subject) :
    sentTo url' (e.sending url x) = [] := by
  rw [sending]
  split <;> simp [sentTo, other.symm]

/-- Edits that find what they need, made one after the other on a server of documents, all end well.  A
document that none of them is about stays as it is, and each of the others ends as the edits of it make it,
with every change sent and nothing else. -/
theorem performAll_revises {τ : Type} (supply : TokenSupply τ) (server : DocumentServer)
    (admin : AdminClient) (edits : List Edit) (s : Documents)
    (ready : ∀ e ∈ edits, e.Ready admin server s) :
    ∃ s' new, Leads supply server (performAll admin edits) s () s' ∧ s'.written = s.written ++ new ∧
      (∀ url, (∀ e ∈ edits, e.target admin ≠ url) → s'.stored url = s.stored url ∧ sentTo url new = []) ∧
      ∀ url d x, s.stored url = some d → d.About deepest x → ∃ d', s'.stored url = some d' ∧
        Revision d d' x (edits.filter fun e => e.target admin = url) (sentTo url new) := by
  induction edits generalizing s with
  | nil =>
    refine ⟨s, [], leads_pure () s, (List.append_nil _).symm, fun url _ => ⟨rfl, rfl⟩, ?_⟩
    exact fun url d x stored about => ⟨d, stored, revision_nil about⟩
  | cons e edits ih =>
    have readyFirst := ready e List.mem_cons_self
    obtain ⟨d, x, stored, about, -⟩ := readyFirst.stored
    have readyRest : ∀ e' ∈ edits, e'.Ready admin server (e.revised (e.target admin) x s) :=
      fun e' mem => (ready e' (List.mem_cons_of_mem e mem)).revised stored about
    obtain ⟨s', new, leads, written, untouched, touched⟩ := ih _ readyRest
    refine ⟨s', e.sending (e.target admin) x ++ new, ?_, ?_, fun url none => ?_, ?_⟩
    · exact (leads_perform readyFirst stored about).bind leads
    · rw [written, written_revised, List.append_assoc]
    · have other := (none e List.mem_cons_self).symm
      obtain ⟨same, unsent⟩ := untouched url fun e' mem => none e' (List.mem_cons_of_mem e mem)
      refine ⟨same.trans (stored_revised_of_ne other), ?_⟩
      rw [sentTo_append, sentTo_sending_of_ne e other, unsent, List.nil_append]
    · intro url d₀ x₀ stored₀ about₀
      rw [sentTo_append]
      by_cases isTarget : e.target admin = url
      · subst isTarget
        cases stored.symm.trans stored₀
        obtain rfl := about.unique about₀
        obtain ⟨d', stored', value, about'⟩ := exists_stored_revised e x stored
        have aboutEdited := about' deepest (Nat.le_refl deepest) about
        obtain ⟨d'', stored'', revision⟩ := touched _ d' _ stored' aboutEdited
        rw [List.filter_cons, if_pos (by simp), sentTo_sending_self]
        exact ⟨d'', stored'', revision.cons about aboutEdited value⟩
      · have other : url ≠ e.target admin := Ne.symm isTarget
        rw [List.filter_cons, if_neg (by simpa using isTarget), sentTo_sending_of_ne e other,
          List.nil_append]
        exact touched url d₀ x₀ ((stored_revised_of_ne other).trans stored₀) about₀

/-! ## A server with a user and a required action -/

/-- A client of a server on this machine. -/
def localAdmin : AdminClient where
  base :=
    { url :=
        { scheme := "http", username := "", password := "", host := some "localhost",
          port := some 8080, path := .segments [""], guarded := false, query := none,
          fragment := none }
      names := [""]
      path_eq := rfl }

def localUserUrl : Url := localAdmin.endpoint ["demo", "users", "u-1"]

def localListUrl : Url := localAdmin.endpoint ["demo", "authentication", "required-actions"]

def localActionUrl : Url :=
  localAdmin.endpoint ["demo", "authentication", "required-actions", "CONFIGURE_TOTP"]

/-- A server with one list, which names one required action. -/
def localServer : DocumentServer :=
  .printing fun url => if url = localListUrl then some [localActionUrl] else none

def localSupply : TokenSupply Unit := .ofStatic ⟨⟨"tok"⟩⟩ (by decide)

/-- Documents about a user and a required action. -/
def localDocuments (user action : Json) : Documents where
  stored url :=
    if url = localUserUrl then some (.user user)
    else if url = localActionUrl then some (.action action)
    else none
  written := []

theorem local_addresses_differ :
    localActionUrl ≠ localUserUrl ∧ localUserUrl ≠ localListUrl ∧ localActionUrl ≠ localListUrl := by
  decide

theorem stored_localUserUrl (user action : Json) :
    (localDocuments user action).stored localUserUrl = some (.user user) := by
  simp [localDocuments]

theorem stored_localActionUrl (user action : Json) :
    (localDocuments user action).stored localActionUrl = some (.action action) := by
  simp [localDocuments, local_addresses_differ]

theorem listed_local : localServer.listed localUserUrl = none ∧
    localServer.listed localActionUrl = none ∧
    localServer.listed localListUrl = some [localActionUrl] := by
  simp [localServer, DocumentServer.printing, local_addresses_differ]

/-- A document that lists nothing to do, and has `null` for an address. -/
def localUserMembers : KeyMap Json :=
  .ofList [("id", .text "u-1"), ("username", .text "alice"), ("email", .null),
    ("attributes", .members [("locale", .texts ["de", "en"])])]

def localUser : UserRecord where
  id := "u-1"
  username := "alice"
  email := none
  requiredActions := []
  extra := UserRecord.record.others localUserMembers

theorem about_localUser : (Document.user (.ofMap localUserMembers)).About deepest (.user localUser) := by
  have plain : Plain (.ofMap localUserMembers) := plain_members (by simp [plain_members, Plain.null])
  have builds : UserRecord.record.Builds localUserMembers.entries
      (UserRecord.mk "u-1" "alice" none []) :=
    builds_of UserRecord.mk
      |>.field (by simp [localUserMembers]) (finds_string "u-1")
      |>.field (by simp [localUserMembers]) (finds_string "alice")
      |>.field (by simp [localUserMembers]) (finds_nullable_null Json.string)
      |>.left_out (by simp [localUserMembers])
  exact .user plain (finds_decodeOpen builds (by decide))

/-- A document that says nothing of new users. -/
def localActionMembers : KeyMap Json :=
  .ofList [("alias", .text "CONFIGURE_TOTP"), ("enabled", .bool false), ("config", .members [])]

def localAction : RequiredAction where
  aliasName := "CONFIGURE_TOTP"
  name := ""
  enabled := false
  defaultAction := false
  extra := RequiredAction.record.others localActionMembers

theorem about_localAction :
    (Document.action (.ofMap localActionMembers)).About (deepest - 1) (.action localAction) := by
  have plain : Plain (.ofMap localActionMembers) := plain_members (by simp [plain_members])
  have builds : RequiredAction.record.Builds localActionMembers.entries
      (RequiredAction.mk "CONFIGURE_TOTP" "" false false) :=
    builds_of RequiredAction.mk
      |>.field (by simp [localActionMembers]) (finds_string "CONFIGURE_TOTP")
      |>.left_out (by simp [localActionMembers])
      |>.field (by simp [localActionMembers]) (finds_boolean false)
      |>.left_out (by simp [localActionMembers])
  exact .action plain (finds_decodeOpen builds (by decide))

/-- Something is given to a user twice and another taken back, and a required action is enabled and
disabled. -/
def localEdits : List Edit :=
  [.addPending "demo" "u-1" "VERIFY_EMAIL", .enable "demo" "CONFIGURE_TOTP",
    .addPending "demo" "u-1" "VERIFY_EMAIL", .removePending "demo" "u-1" "CONFIGURE_TOTP",
    .disable "demo" "CONFIGURE_TOTP"]

/-- An edit of the user finds what it needs. -/
theorem ready_of_user {e : Edit} {user action : Json} {u : UserRecord}
    (isTarget : e.target localAdmin = localUserUrl) (unlisted : e.listing? localAdmin = none)
    (about : (Document.user user).About deepest (.user u)) (fits : e.Fits (.user u)) :
    e.Ready localAdmin localServer (localDocuments user action) where
  stored := ⟨_, _, isTarget ▸ stored_localUserUrl user action, about, fits⟩
  apart := isTarget ▸ listed_local.1
  listing := by simp [unlisted]

/-- An edit of the required action finds what it needs. -/
theorem ready_of_action {e : Edit} {user action : Json} {a : RequiredAction}
    (isTarget : e.target localAdmin = localActionUrl)
    (list : ∀ url, e.listing? localAdmin = some url → url = localListUrl)
    (about : (Document.action action).About (deepest - 1) (.action a)) (fits : e.Fits (.action a)) :
    e.Ready localAdmin localServer (localDocuments user action) where
  stored := ⟨_, _, isTarget ▸ stored_localActionUrl user action, about.mono (Nat.sub_le deepest 1), fits⟩
  apart := isTarget ▸ listed_local.2.1
  listing := by
    intro url isList
    refine ⟨[localActionUrl], list url isList ▸ listed_local.2.2, by simp [isTarget], ?_⟩
    exact List.forall_mem_singleton.2 ⟨_, a, stored_localActionUrl user action, about⟩

theorem performAll_revises_local :
    (∀ e ∈ localEdits, e.Ready localAdmin localServer
      (localDocuments (.ofMap localUserMembers) (.ofMap localActionMembers))) ∧
    ∃ s' new, Leads localSupply localServer (performAll localAdmin localEdits)
        (localDocuments (.ofMap localUserMembers) (.ofMap localActionMembers)) () s' ∧
      s'.written = new ∧
      (∃ d', s'.stored localUserUrl = some d' ∧
        Revision (.user (.ofMap localUserMembers)) d' (.user localUser)
          (localEdits.filter fun e => e.target localAdmin = localUserUrl) (sentTo localUserUrl new)) ∧
      ∃ d', s'.stored localActionUrl = some d' ∧
        Revision (.action (.ofMap localActionMembers)) d' (.action localAction)
          (localEdits.filter fun e => e.target localAdmin = localActionUrl)
          (sentTo localActionUrl new) := by
  have ready : ∀ e ∈ localEdits, e.Ready localAdmin localServer
      (localDocuments (.ofMap localUserMembers) (.ofMap localActionMembers)) := by
    simp only [localEdits, List.forall_mem_cons]
    exact ⟨ready_of_user rfl rfl about_localUser rfl,
      ready_of_action rfl (fun _ h => (Option.some.inj h).symm) about_localAction rfl,
      ready_of_user rfl rfl about_localUser rfl, ready_of_user rfl rfl about_localUser rfl,
      ready_of_action rfl nofun about_localAction rfl, nofun⟩
  obtain ⟨s', new, leads, written, -, revisions⟩ :=
    performAll_revises localSupply localServer localAdmin localEdits _ ready
  refine ⟨ready, s', new, leads, written, ?_, ?_⟩
  · exact revisions _ _ _ (stored_localUserUrl _ _) about_localUser
  · exact revisions _ _ _ (stored_localActionUrl _ _) (about_localAction.mono (Nat.sub_le deepest 1))

/-! ## As deep as a list is looked into -/

/-- A required action with one kept member, nested so deep that it is found by itself but not in a list. -/
def deepAction : RequiredAction where
  aliasName := "CONFIGURE_TOTP"
  name := ""
  enabled := false
  defaultAction := false
  extra := .ofList [("config", nested 126)]

theorem depth_deepAction : depthMembers deepAction.extra.entries = 126 := by
  simp [deepAction, KeyMap.ofList, KeyMap.insert, KeyMap.insertEntry, KeyMap.empty, depthMembers,
    depth_nested]

theorem apart_deepAction : RequiredAction.record.Apart deepAction.extra := by
  simp [Apart, deepAction, KeyMap.ofList, KeyMap.insert, KeyMap.insertEntry, KeyMap.empty]
  decide

theorem about_deepAction : (Document.action deepAction.json).About deepest (.action deepAction) := by
  have plain : AllPlain deepAction.extra.entries := allPlain_ofList (by simp [plain_nested])
  exact .action (plain_ofMap (RequiredAction.plain_document plain))
    (RequiredAction.finds_json apart_deepAction (by rw [depth_deepAction]; decide))

theorem listDecoder_deepAction {r : Raw} (value : r.value? = some (.array [deepAction.json])) :
    RequiredAction.listDecoder r = .error .malformed := by
  obtain ⟨items, rfl, values⟩ := value?_eq_array.1 value
  obtain ⟨r, rest, first, -, rfl⟩ := List.forall₂_cons_right_iff.1 (values?_eq_some.1 values)
  have deep : ¬depthMembers deepAction.extra.entries ≤ deepest - 1 - 1 := by
    rw [depth_deepAction]
    decide
  have refused : RequiredAction.decoderIn (deepest - 1) r = .error .malformed := by
    rw [RequiredAction.decoderIn_of_value? apart_deepAction first, if_neg deep]
  rw [RequiredAction.listDecoder, Json.list, decodeItems, refused]
  rfl

/-- Nothing is enabled where the list is not found. -/
theorem eval_enable_refused {τ : Type} (supply : TokenSupply τ) {server : DocumentServer}
    {admin : AdminClient} {s : Documents} {realm : String} (aliasName : String) {j : Json}
    {fault : Fault} {turn : Nat}
    (seen : server.seen? s (admin.endpoint [realm, "authentication", "required-actions"]) = some j)
    (refused : decodeFirst RequiredAction.listDecoder (Utf8.glyphs (server.text turn j)) =
      .error fault) (t : τ) :
    ∃ t', Attempt.eval (supply.beside server) (performAll admin [enable realm aliasName])
        (t, s, turn) =
      (.error (.decode (admin.endpoint [realm, "authentication", "required-actions"]).pathText fault),
        t', s, turn + 1) := by
  obtain ⟨t', unlisted⟩ := eval_getJson_refused supply seen refused t
  refine ⟨t', Attempt.eval_bind_error _ ?_⟩
  rw [perform, Provisioner.enableRequiredAction, Attempt.eval_observe _ fun _ _ => rfl]
  exact Attempt.eval_bind_error _ unlisted

/-- A required action that is found by itself, under its alias, is not enabled if it nests so deep that the
list that holds it is not found. -/
theorem deep_action_is_not_enabled :
    ∃ s : Documents, s.stored localActionUrl = some (.action deepAction.json) ∧
      (Document.action deepAction.json).About deepest (.action deepAction) ∧
      (enable "demo" "CONFIGURE_TOTP").target localAdmin = localActionUrl ∧
      (enable "demo" "CONFIGURE_TOTP").Fits (.action deepAction) ∧
      localServer.listed localActionUrl = none ∧
      localServer.seen? s localListUrl = some (.array [deepAction.json]) ∧
      Attempt.eval (localSupply.beside localServer)
          (performAll localAdmin [enable "demo" "CONFIGURE_TOTP"]) ((), s, 0) =
        (.error (.decode localListUrl.pathText .malformed), (), s, 1) := by
  have seen : localServer.seen? (localDocuments .null deepAction.json) localListUrl =
      some (.array [deepAction.json]) := by
    rw [DocumentServer.seen?, listed_local.2.2]
    simp [Documents.value?, stored_localActionUrl, Document.value]
  have plain : Plain (.array [deepAction.json]) := by
    cases about_deepAction with
    | action plain _ => exact .array (by simpa using plain)
  have refused : decodeFirst RequiredAction.listDecoder
      (Utf8.glyphs (localServer.text 0 (.array [deepAction.json]))) = .error .malformed := by
    rw [decodeFirst]
    exact listDecoder_deepAction (localServer.shows 0 _ plain)
  obtain ⟨_, failed⟩ := eval_enable_refused localSupply "CONFIGURE_TOTP" seen refused ()
  exact ⟨localDocuments .null deepAction.json, stored_localActionUrl _ _, about_deepAction, rfl, rfl,
    listed_local.2.1, seen, failed⟩

end Edit

end RealmSetup
