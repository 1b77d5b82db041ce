import RealmSetup.Admin.Flows
import RealmSetup.Proofs.Effect.Courses

/-!
# Calls of a client

Whatever a client asks of an admin server, it does so by calls that send one request each and make
something of the reply (`AdminCall`).  `AdminCall.perform_eq` says of each which request that is and
what is made of the reply.  `AdminCall.Requests` lists what can be asked of a client, and all of it is such
a call; storing a credential is one once an identifier is drawn.
-/

namespace RealmSetup

/-- A request as it is sent with a token. -/
def Request.signed (r : Request) (token : Secret) : Request := { r with bearer := some token }

/-- A call that sends one request and makes something of the reply. -/
inductive AdminCall : Type → Type 1
  | execute (method : Method) (url : Url) (body : RequestBody) : AdminCall Unit
  | create (url : Url) (body : Json) : AdminCall Creation
  | getJson {α : Type} (url : Url) (decoder : Json.Decoder α) : AdminCall α
  | getOptionalJson {α : Type} (url : Url) (decoder : Json.Decoder α) : AdminCall (Option α)
  | deleteRealm (c : AdminClient) (realm : String) : AdminCall Bool
  /-- Makes something of what another call yields. -/
  | map {α β : Type} (f : α → β) (call : AdminCall α) : AdminCall β

namespace AdminCall

variable {α : Type}

/-- What a client does to make a call. -/
def perform : {α : Type} → AdminCall α → SiteAttempt α
  | _, execute method url body => AdminClient.execute method url body
  | _, create url body => AdminClient.create url body
  | _, getJson url decoder => AdminClient.getJson url decoder
  | _, getOptionalJson url decoder => AdminClient.getOptionalJson url decoder
  | _, deleteRealm c realm => c.deleteRealm realm
  | _, map f call => f <$> call.perform

/-- The request of a call, without a token. -/
def request : {α : Type} → AdminCall α → Request
  | _, execute method url body => ⟨method, url, none, body⟩
  | _, create url body => ⟨.post, url, none, .json body⟩
  | _, getJson url _ => ⟨.get, url, none, .empty⟩
  | _, getOptionalJson url _ => ⟨.get, url, none, .empty⟩
  | _, deleteRealm c realm => ⟨.delete, c.endpoint [realm], none, .empty⟩
  | _, map _ call => call.request

/-- What a call makes of the reply. -/
def outcome : {α : Type} → AdminCall α → Reply → Except Error α
  | _, execute method url _, reply => reply.ensureSuccess method url
  | _, create url _, reply =>
    if reply.status = 409 then .ok .alreadyExists
    else (reply.ensureSuccess .post url).map fun _ => .created
  | _, getJson url decoder, reply => reply.ensureSuccess .get url >>= fun _ => reply.decode url decoder
  | _, getOptionalJson url decoder, reply =>
    if reply.status = 404 then .ok none
    else reply.ensureSuccess .get url >>= fun _ => (reply.decode url decoder).map some
  | _, deleteRealm c realm, reply =>
    if reply.status = 404 then .ok false
    else (reply.ensureSuccess .delete (c.endpoint [realm])).map fun _ => true
  | _, map f call, reply => (call.outcome reply).map f

/-- What a call notes about the reply: that there was something already. -/
def remark : {α : Type} → AdminCall α → Reply → SiteAttempt Unit
  | _, create url _, reply =>
    if reply.status = 409 then
      ExceptT.lift (log .debug "resource already exists" [("path", .text url.pathText)])
    else pure ()
  | _, map _ call, reply => call.remark reply
  | _, _, _ => pure ()

/-- Results follow each other as attempts do. -/
theorem ofExcept_bind {β : Type} (r : Except Error α) (f : α → Except Error β) :
    (Attempt.ofExcept (I := Site) r >>= fun a => .ofExcept (f a)) = .ofExcept (r >>= f) := by
  cases r <;> rfl

theorem ofExcept_map {β : Type} (r : Except Error α) (f : α → β) :
    f <$> Attempt.ofExcept (I := Site) r = .ofExcept (r.map f) := by
  cases r <;> rfl

/-- A call sends its request, and makes what it makes of the reply. -/
theorem perform_eq (call : AdminCall α) :
    call.perform =
      AdminClient.send call.request.method call.request.url call.request.body >>= fun reply =>
        call.remark reply >>= fun _ => Attempt.ofExcept (call.outcome reply) := by
  induction call with
  | execute method url body => rfl
  | create url body =>
    refine bind_congr fun reply => ?_
    by_cases there : reply.status = 409
    · simp only [remark, outcome, if_pos there]
      rfl
    · simp only [remark, outcome, if_neg there, ← ofExcept_map, map_eq_pure_bind, pure_bind]
  | getJson url decoder => exact bind_congr fun reply => ofExcept_bind _ _
  | getOptionalJson url decoder =>
    refine bind_congr fun reply => ?_
    by_cases missing : reply.status = 404
    · simp only [remark, outcome, if_pos missing, pure_bind]
      rfl
    · simp only [remark, outcome, if_neg missing, ← ofExcept_map, ← ofExcept_bind, map_eq_pure_bind,
        pure_bind]
  | deleteRealm c realm =>
    refine bind_congr fun reply => ?_
    by_cases missing : reply.status = 404
    · simp only [remark, outcome, if_pos missing, pure_bind]
      rfl
    · simp only [remark, outcome, if_neg missing, ← ofExcept_map, map_eq_pure_bind, pure_bind]
  | map f call ih => simp only [perform, ih, map_bind, ofExcept_map]; rfl

/-! ## The requests there are -/

/-- An attempt is a call that sends one request. -/
def IsCall (w : SiteAttempt α) : Prop := ∃ call : AdminCall α, call.perform = w

theorem isCall_execute (method : Method) (url : Url) (body : RequestBody) :
    IsCall (AdminClient.execute method url body) :=
  ⟨execute method url body, rfl⟩

theorem isCall_create (url : Url) (body : Json) : IsCall (AdminClient.create url body) :=
  ⟨create url body, rfl⟩

theorem isCall_getJson (url : Url) (decoder : Json.Decoder α) :
    IsCall (AdminClient.getJson url decoder) :=
  ⟨getJson url decoder, rfl⟩

theorem isCall_getOptionalJson (url : Url) (decoder : Json.Decoder α) :
    IsCall (AdminClient.getOptionalJson url decoder) :=
  ⟨getOptionalJson url decoder, rfl⟩

theorem IsCall.map {β : Type} {w : SiteAttempt α} (h : IsCall w) (f : α → β) :
    IsCall (w >>= fun a => pure (f a)) := by
  obtain ⟨call, rfl⟩ := h
  exact ⟨call.map f, map_eq_pure_bind f call.perform⟩

/-- Stores a credential for time-based codes under the identifier that is made from a number. -/
def putOtpCredential (c : AdminClient) (realm userId : String) (seed : Secret) (n : Nat) :
    AdminCall Unit :=
  let id := AdminClient.credentialId n
  .execute .put (c.endpoint [realm, "users", userId, "credentials", id])
    (.json <| .members
      [("id", .text id), ("type", .text "otp"), ("userLabel", .text "Authenticator"),
        ("credentialData", .text AdminClient.totpData.render),
        ("secretData", .text (Json.members [("value", seed.json)]).render)])

/-- To store a credential is one call, once a number is drawn. -/
theorem putOtpCredential_eq (c : AdminClient) (realm userId : String) (seed : Secret) :
    c.putOtpCredential realm userId seed =
      ExceptT.lift (Offers.perform (I := Host) .drawId : Program Site Nat) >>= fun n =>
        (putOtpCredential c realm userId seed n).perform :=
  rfl

/-- What can be asked of a client: about the flows of a realm, about realms themselves, their required
actions, roles, users and clients, and that a credential is stored. -/
inductive Requests (c : AdminClient) : {α : Type} → SiteAttempt α → Prop
  | serveOp (realm : String) (op : Remote.Op) : Requests c (c.serveOp realm op)
  | realmExists (realm : String) : Requests c (c.realmExists realm)
  | getRealm (realm : String) : Requests c (c.getRealm realm)
  | realmEntryPoint (realm : String) : Requests c (c.realmEntryPoint realm)
  | createRealm (document : Json) : Requests c (c.createRealm document)
  | deleteRealm (realm : String) : Requests c (c.deleteRealm realm)
  | updateRealm (realm : String) (patch : Json) : Requests c (c.updateRealm realm patch)
  | listRequiredActions (realm : String) : Requests c (c.listRequiredActions realm)
  | getRequiredAction (realm aliasName : String) : Requests c (c.getRequiredAction realm aliasName)
  | putRequiredAction (realm : String) (action : RequiredAction) :
    Requests c (c.putRequiredAction realm action)
  | registerRequiredAction (realm providerId : String) :
    Requests c (c.registerRequiredAction realm providerId)
  | createRole (realm name : String) : Requests c (c.createRole realm name)
  | getRole (realm name : String) : Requests c (c.getRole realm name)
  | createUser (realm : String) (document : Json) : Requests c (c.createUser realm document)
  | findUser (realm username : String) : Requests c (c.findUser realm username)
  | getUser (realm id : String) : Requests c (c.getUser realm id)
  | putUser (realm : String) (user : UserRecord) : Requests c (c.putUser realm user)
  | addRealmRoles (realm id : String) (roles : List Role) : Requests c (c.addRealmRoles realm id roles)
  | listUserRealmRoles (realm id : String) : Requests c (c.listUserRealmRoles realm id)
  | getClientByClientId (realm clientId : String) :
    Requests c (c.getClientByClientId realm clientId)
  | createClient (realm : String) (document : Json) : Requests c (c.createClient realm document)
  | putOtpCredential (realm userId : String) (seed : Secret) :
    Requests c (c.putOtpCredential realm userId seed)

/-- Whatever is asked of a client is one call, or one once a number is drawn. -/
theorem Requests.isCall {c : AdminClient} {w : SiteAttempt α} (h : Requests c w) :
    IsCall w ∨ ∃ call : Nat → AdminCall α,
      w = ExceptT.lift (Offers.perform (I := Host) .drawId : Program Site Nat) >>= fun n =>
        (call n).perform := by
  cases h with
  | serveOp realm op =>
    left
    cases op with
    | createFlow | copyFlow => exact isCall_create _ _
    | listFlows | listExecutions | getConfig => exact isCall_getJson _ _
    | browserFlow => exact (isCall_getJson _ _).map RealmSummary.browserFlow
    | _ => exact isCall_execute _ _ _
  | realmExists => exact .inl ((isCall_getOptionalJson _ _).map _)
  | getRequiredAction => exact .inl (isCall_getOptionalJson _ _)
  | deleteRealm realm => exact .inl ⟨.deleteRealm c realm, rfl⟩
  | realmEntryPoint | findUser | getClientByClientId => exact .inl ((isCall_getJson _ _).map _)
  | getRealm | listRequiredActions | getRole | getUser | listUserRealmRoles =>
    exact .inl (isCall_getJson _ _)
  | createRealm | registerRequiredAction | createRole | createUser | createClient =>
    exact .inl (isCall_create _ _)
  | updateRealm | putRequiredAction | putUser | addRealmRoles => exact .inl (isCall_execute _ _ _)
  | putOtpCredential realm userId seed =>
    exact .inr ⟨_, putOtpCredential_eq c realm userId seed⟩

/-! ## What is called besides -/

/-- What a client may call for a request: the source of tokens, the server, chance for an identifier and
the log. -/
def Serves : Site.Call → Prop
  | .inl _ | .inr (.exchange _) | .inr .drawId | .inr (.note (.logged _)) => True
  | _ => False

theorem makes_log (level : LogLevel) (message : String) (fields : List (String × Json)) :
    (ExceptT.lift (log level message fields) : SiteAttempt Unit).run.Makes Serves :=
  Program.makes_bind (Program.makes_call trivial) fun _ => trivial

theorem makes_sendOnce (method : Method) (url : Url) (body : RequestBody) :
    (AdminClient.sendOnce method url body).run.Makes Serves := by
  refine Attempt.makes_bind (Program.makes_call trivial) fun token => ?_
  split
  · refine Program.makes_bind (Program.makes_call trivial) fun answer => ?_
    cases answer <;> trivial
  · trivial

theorem makes_send (method : Method) (url : Url) (body : RequestBody) :
    (AdminClient.send method url body).run.Makes Serves := by
  refine Attempt.makes_bind (makes_sendOnce method url body) fun reply => ?_
  split
  · refine Attempt.makes_bind (makes_log _ _ _) fun _ => ?_
    exact Attempt.makes_bind (Program.makes_bind (Program.makes_call trivial) fun _ => trivial)
      fun _ => makes_sendOnce method url body
  · trivial

theorem makes_remark (call : AdminCall α) (reply : Reply) : (call.remark reply).run.Makes Serves := by
  induction call with
  | create url body =>
    rw [remark]
    split
    · exact makes_log _ _ _
    · trivial
  | map f call ih => exact ih
  | _ => trivial

/-- A call of a client makes no others. -/
theorem makes_perform (call : AdminCall α) : call.perform.run.Makes Serves := by
  rw [perform_eq]
  exact Attempt.makes_bind (makes_send _ _ _) fun reply =>
    Attempt.makes_bind (call.makes_remark reply) fun _ => trivial

/-- Nor does a client for anything that can be asked of it. -/
theorem Requests.makes {c : AdminClient} {w : SiteAttempt α} (h : Requests c w) :
    w.run.Makes Serves := by
  obtain ⟨call, rfl⟩ | ⟨call, rfl⟩ := h.isCall
  · exact call.makes_perform
  · exact Attempt.makes_bind (Program.makes_bind (Program.makes_call trivial) fun _ => trivial)
      fun n => (call n).makes_perform

end AdminCall

end RealmSetup
