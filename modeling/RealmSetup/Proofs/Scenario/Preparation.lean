import RealmSetup.Proofs.Scenario.Calls

/-!
# Preparing a realm

All that is done for a scenario before its flow is made, from the deletion of the realm to the seeds of its
users, consists of calls about that realm which leave its entry point alone (`plainly_prepare`,
`prepares_enrollUser`).  Each step of a realm is a sequence of such calls, so that one rule tells its
transcripts (`Reading.tells_prepares`).  Seeds have a part in the last steps of an enrollment only.
-/

namespace RealmSetup

open Orchestrator Reading StationAttempt

theorem Json.textAt?_members (ms : List (String × Json)) (name : String) :
    (Json.members ms).textAt? name = ((KeyMap.ofList ms).get? name).bind Json.text? := by
  have get : (Json.members ms).get? name = (KeyMap.ofList ms).get? name := rfl
  rw [textAt?, given?, get]
  split
  · rename_i null
    rw [null]
    rfl
  · rfl

variable {admin : AdminClient} {realm : String} {α : Type}

/-- A single call of a client that prepares a realm. -/
inductive PreparingCall (admin : AdminClient) (realm : String) : (β : Type) → SiteAttempt β → Prop
  | make (c : Call) (w : SiteAttempt c.Result) (performs : ofSite w = c.perform admin)
    (h : c.Prepares realm) : PreparingCall admin realm c.Result w

/-- A client makes calls that prepare a realm, up to the first that fails. -/
abbrev Prepares (admin : AdminClient) (realm : String) (w : SiteAttempt α) : Prop :=
  w.Composed (PreparingCall admin realm)

theorem prepares_call (c : Call) {w : SiteAttempt c.Result} (performs : ofSite w = c.perform admin)
    (h : c.Prepares realm) : Prepares admin realm w :=
  .step (.make c w performs h)

/-- Every transcript of such a client is one of calls that prepare the realm. -/
theorem Reading.tells_prepares {w : SiteAttempt α} (h : Prepares admin realm w) :
    site.Tells w fun (log : List (CallMade admin)) _ => Preparing realm log := by
  refine Tells.composed h fun β w step => ?_
  cases step with
  | make c w performs prepares => exact tells_preparing c (congrArg ExceptT.run performs) prepares

/-- A call in which no seed has a part. -/
def Orchestrator.Call.Seedless : Call → Prop
  | drawSeed | putOtpCredential _ _ _ | putSecret _ _ => False
  | _ => True

/-- A single call of a client that prepares a realm and has nothing to do with seeds. -/
inductive PlainCall (admin : AdminClient) (realm : String) : (β : Type) → SiteAttempt β → Prop
  | make (c : Call) (w : SiteAttempt c.Result) (performs : ofSite w = c.perform admin)
    (h : c.Prepares realm) (seedless : c.Seedless) : PlainCall admin realm c.Result w

/-- A client makes such calls, up to the first that fails. -/
abbrev PreparesPlainly (admin : AdminClient) (realm : String) (w : SiteAttempt α) : Prop :=
  w.Composed (PlainCall admin realm)

theorem plainly_call (c : Call) {w : SiteAttempt c.Result} (performs : ofSite w = c.perform admin)
    (h : c.Prepares realm) (seedless : c.Seedless) : PreparesPlainly admin realm w :=
  .step (.make c w performs h seedless)

theorem PreparesPlainly.prepares {w : SiteAttempt α} (h : PreparesPlainly admin realm w) :
    Prepares admin realm w := by
  refine Attempt.Composed.mono h fun β w step => ?_
  cases step with
  | make c w performs h seedless => exact .make c w performs h

/-! ## Steps of a realm -/

namespace Provisioner

theorem plainly_enableRequiredAction (aliasName : String) :
    PreparesPlainly admin realm (enableRequiredAction admin realm aliasName) := by
  refine .observe _ _ <|
    .bind (plainly_call (.listRequiredActions realm) rfl ⟨rfl, rfl⟩ trivial) fun known => ?_
  split
  on_goal 1 =>
    refine .bind ?_ fun _ => ?_
    · exact plainly_call (.registerRequiredAction realm aliasName) rfl ⟨rfl, rfl⟩ trivial
  -- Registered just now or known before, the action is looked at and enabled.
  all_goals
    refine .bind ?_ fun found => ?_
    · exact plainly_call (.getRequiredAction realm aliasName) rfl ⟨rfl, rfl⟩ trivial
    split
    · exact Attempt.composed_throw _
    · split
      · exact Attempt.composed_pure _
      · exact plainly_call (.putRequiredAction realm _) rfl ⟨rfl, rfl⟩ trivial

theorem plainly_disableRequiredAction (aliasName : String) :
    PreparesPlainly admin realm (disableRequiredAction admin realm aliasName) := by
  refine .observe _ _ <|
    .bind (plainly_call (.getRequiredAction realm aliasName) rfl ⟨rfl, rfl⟩ trivial) fun found => ?_
  split
  · exact Attempt.composed_pure _
  · split
    · exact Attempt.composed_pure _
    · exact plainly_call (.putRequiredAction realm _) rfl ⟨rfl, rfl⟩ trivial

theorem plainly_addUserRequiredAction (userId aliasName : String) :
    PreparesPlainly admin realm (addUserRequiredAction admin realm userId aliasName) := by
  refine .observe _ _ <|
    .bind (plainly_call (.getUser realm userId) rfl ⟨rfl, rfl⟩ trivial) fun user => ?_
  split
  · exact Attempt.composed_pure _
  · exact plainly_call (.putUser realm _) rfl ⟨rfl, rfl⟩ trivial

theorem plainly_removeUserRequiredAction (userId aliasName : String) :
    PreparesPlainly admin realm (removeUserRequiredAction admin realm userId aliasName) := by
  refine .observe _ _ <|
    .bind (plainly_call (.getUser realm userId) rfl ⟨rfl, rfl⟩ trivial) fun user => ?_
  dsimp only
  split
  · exact Attempt.composed_pure _
  · exact plainly_call (.putUser realm _) rfl ⟨rfl, rfl⟩ trivial

theorem plainly_updateRealm {patch : Json} (h : patch.textAt? Call.entryPointMember = none) :
    PreparesPlainly admin realm (admin.updateRealm realm patch) :=
  plainly_call (.updateRealm realm patch) rfl ⟨rfl, h⟩ trivial

theorem plainly_resetRealm : PreparesPlainly admin realm (resetRealm admin realm) := by
  have create : (Call.createRealm (baseline realm)).Prepares realm := by
    simp [Call.Prepares, Call.realm?, Call.entryPoint?, Call.entryPointMember, baseline,
      Json.textAt?_members, KeyMap.ofList, KeyMap.get?_insert, KeyMap.get?_empty, Json.text?]
  exact .observe _ _ <| .bind (plainly_call (.deleteRealm realm) rfl ⟨rfl, rfl⟩ trivial) fun _ =>
    .bind (plainly_call (.createRealm (baseline realm)) rfl create trivial) fun _ =>
      .bind (plainly_disableRequiredAction verifyProfile) fun _ => .log _ _ _

theorem plainly_configureMail (transport : MailTransport) :
    PreparesPlainly admin realm (configureMail admin realm transport) := by
  refine .observe _ _ (plainly_updateRealm ?_)
  simp [Call.entryPointMember, Json.textAt?_members, KeyMap.ofList, KeyMap.get?_insert,
    KeyMap.get?_empty]

theorem plainly_enableLocalization (supported : List String) (default : String) :
    PreparesPlainly admin realm (enableLocalization admin realm supported default) := by
  refine .observe _ _ (plainly_updateRealm ?_)
  simp [Call.entryPointMember, Json.textAt?_members, KeyMap.ofList, KeyMap.get?_insert,
    KeyMap.get?_empty]

theorem plainly_ensureClient (clientId : String) :
    PreparesPlainly admin realm (ensureClient admin realm clientId) := by
  refine .observe _ _ <|
    .bind (plainly_call (.getClientByClientId realm clientId) rfl ⟨rfl, rfl⟩ trivial) fun found => ?_
  split
  · exact Attempt.composed_pure _
  · exact plainly_call (.createClient realm (publicClient clientId)) rfl ⟨rfl, rfl⟩ trivial

theorem plainly_ensureRole (role : String) :
    PreparesPlainly admin realm (ensureRole admin realm role) :=
  .observe _ _ (plainly_call (.createRole realm role) rfl ⟨rfl, rfl⟩ trivial)

theorem plainly_createUser (user : UserSpec) :
    PreparesPlainly admin realm (createUser admin realm user) := by
  refine .observe _ _ <|
    .bind (plainly_call (.createUser realm (newUser user)) rfl ⟨rfl, rfl⟩ trivial) fun _ =>
      .bind (plainly_call (.findUser realm user.username) rfl ⟨rfl, rfl⟩ trivial) fun found => ?_
  split
  · exact Attempt.composed_pure _
  · exact Attempt.composed_throw _

theorem plainly_assignRole (userId role : String) :
    PreparesPlainly admin realm (assignRole admin realm userId role) :=
  .observe _ _ <| .bind (plainly_call (.getRole realm role) rfl ⟨rfl, rfl⟩ trivial) fun role =>
    plainly_call (.addRealmRoles realm userId [role]) rfl ⟨rfl, rfl⟩ trivial

end Provisioner

theorem prepares_credentialEnroller (userId username : String) :
    Prepares admin realm (credentialEnroller admin realm userId username) :=
  .bind (prepares_call .drawSeed rfl ⟨rfl, rfl⟩) fun seed => .observe _ _ <|
    .bind (prepares_call (.putOtpCredential realm userId seed) rfl ⟨rfl, rfl⟩) fun _ =>
      .bind (Provisioner.plainly_removeUserRequiredAction _ _).prepares fun _ =>
        .bind (.log _ _ _) fun _ => Attempt.composed_pure _

namespace Orchestrator

theorem plainly_addUser (user : ScenarioUser) :
    PreparesPlainly admin realm (addUser admin realm user) :=
  .bind (Provisioner.plainly_createUser _) fun _ =>
    .bind (.forM (fun _ => Provisioner.plainly_assignRole _ _) _) fun _ => Attempt.composed_pure _

theorem plainly_addUsers (users : List ScenarioUser) (found : KeyMap String) :
    PreparesPlainly admin realm (addUsers admin realm found users) := by
  induction users generalizing found with
  | nil => exact Attempt.composed_pure _
  | cons user rest ih => exact .bind (plainly_addUser user) fun id => ih _

variable {o : Orchestrator}

theorem plainly_prepare (s : Scenario) : PreparesPlainly o.admin s.realm (o.prepare s) := by
  refine .bind Provisioner.plainly_resetRealm fun _ =>
    .bind (Provisioner.plainly_configureMail _) fun _ =>
      .bind (Provisioner.plainly_ensureClient _) fun _ => ?_
  split
  on_goal 2 => refine .bind (Provisioner.plainly_enableLocalization _ _) fun _ => ?_
  all_goals
    exact .bind (.forM (fun role => (Provisioner.plainly_ensureRole role).map _) s.roles) fun _ =>
      plainly_addUsers _ _

theorem prepares_enrollUser (builtIn : o.enroller = credentialEnroller o.admin)
    (userId username : String) : Prepares o.admin realm (o.enrollUser realm userId username) :=
  .bind (Provisioner.plainly_enableRequiredAction _).prepares fun _ =>
    .bind (Provisioner.plainly_addUserRequiredAction _ _).prepares fun _ =>
      builtIn ▸ prepares_credentialEnroller userId username

end Orchestrator

end RealmSetup
