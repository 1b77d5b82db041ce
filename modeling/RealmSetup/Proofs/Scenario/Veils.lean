import RealmSetup.Proofs.Auth.Passwords
import RealmSetup.Proofs.Scenario.Composition

/-!
# Runs for different seeds

A run goes like itself whatever seeds are drawn (`Orchestrator.twins_run`).  A seed stands in the body of
the request that stores a credential and is kept in the store of secrets; nothing that a client or the run
does depends on it.  All the other calls of a run correspond to themselves, and no seed has a part in them.
-/

namespace RealmSetup

open Orchestrator StationAttempt

variable {g : Grant} {password : Secret} {admin : AdminClient} {α β : Type}

/-- Calls of a client that sends tokens, which differ in secrets at most.  Tokens are no such secrets. -/
abbrev SiteVeiled (g : Grant) (password : Secret) : Pairing Site :=
  Pairing.Same.Both (Veiled g password)

/-- Calls to a store of secrets that differ in these at most. -/
inductive VaultVeiled : Pairing Vault
  | clear : VaultVeiled .clear .clear fun (x y : Except StoreError Unit) => x = y
  | put (user : String) (secret secret' : Secret) :
    VaultVeiled (.put user secret) (.put user secret') fun (x y : Except StoreError Unit) => x = y

/-- Calls of a run that differ in secrets at most. -/
abbrev StationVeiled (g : Grant) (password : Secret) : Pairing Station :=
  (SiteVeiled g password).Both VaultVeiled

/-! ## Requests -/

theorem twins_bearer (c : Bearer.Call) :
    Program.Twins (SiteVeiled g password) Eq (Program.call (I := Site) (.inl c))
      (Program.call (I := Site) (.inl c)) :=
  Program.twins_inl (Pairing.Same.same (I := Bearer) c)

theorem twins_host {c c' : Host.Call} {A : Host.Answer c → Host.Answer c' → Prop}
    (h : Veiled g password c c' A) :
    Program.Twins (SiteVeiled g password) A (Program.call (I := Site) (.inr c))
      (Program.call (I := Site) (.inr c')) :=
  Program.twins_inr h

theorem twins_log (level : LogLevel) (message : String) (fields : List (String × Json)) :
    Attempt.Twins (SiteVeiled g password) Eq (ExceptT.lift (log level message fields))
      (ExceptT.lift (log level message fields)) :=
  Attempt.twins_lift (twins_host (.same (.note _) nofun))

section Requests

variable {method : Method} {url : Url} {body body' : RequestBody}

/-- Two bodies differ in secrets at most, whatever token they are sent with. -/
def BodiesVeiled (g : Grant) (password : Secret) (method : Method) (url : Url)
    (body body' : RequestBody) : Prop :=
  ∀ token, Veiled g password (.exchange ⟨method, url, some token, body⟩)
    (.exchange ⟨method, url, some token, body'⟩) fun (x y : Except String Reply) => x = y

theorem twins_sendOnce (h : BodiesVeiled g password method url body body') :
    Attempt.Twins (SiteVeiled g password) Eq (AdminClient.sendOnce method url body)
      (AdminClient.sendOnce method url body') := by
  have token : Attempt.Twins (SiteVeiled g password) Eq bearerToken bearerToken :=
    (twins_bearer .get).mono fun _ _ => alike_eq_iff.2
  refine token.bind ?_
  rintro token _ rfl
  split
  · refine (twins_host (h token)).bind ?_
    rintro answer _ rfl
    cases answer with
    | ok reply => exact Attempt.twins_pure rfl
    | error cause => exact Attempt.twins_throw _
  · exact Attempt.twins_throw _

theorem twins_send (h : BodiesVeiled g password method url body body') :
    Attempt.Twins (SiteVeiled g password) Eq (AdminClient.send method url body)
      (AdminClient.send method url body') := by
  refine (twins_sendOnce h).bind ?_
  rintro reply _ rfl
  split
  · refine (twins_log _ _ _).bind fun _ _ _ => ?_
    refine (Attempt.twins_lift (twins_bearer .drop)).bind fun _ _ _ => ?_
    exact twins_sendOnce h
  · exact Attempt.twins_pure rfl

theorem twins_execute (h : BodiesVeiled g password method url body body') :
    Attempt.Twins (SiteVeiled g password) Eq (AdminClient.execute method url body)
      (AdminClient.execute method url body') := by
  refine (twins_send h).bind ?_
  rintro reply _ rfl
  exact Attempt.twins_ofExcept _

/-- A credential is stored alike for any seed. -/
theorem twins_putOtpCredential (c : AdminClient) (realm userId : String) (seed seed' : Secret) :
    Attempt.Twins (SiteVeiled g password) Eq (c.putOtpCredential realm userId seed)
      (c.putOtpCredential realm userId seed') := by
  rw [AdminCall.putOtpCredential_eq, AdminCall.putOtpCredential_eq]
  refine (Attempt.twins_lift (twins_host (.same .drawId nofun))).bind ?_
  rintro n _ rfl
  exact twins_execute fun token => .credential c realm userId n seed seed' token

end Requests

/-! ## In the surroundings of a run -/

theorem twins_ofSite {V : α → β → Prop} {w : SiteAttempt α} {w' : SiteAttempt β}
    (h : Attempt.Twins (SiteVeiled g password) V w w') :
    Attempt.Twins (StationVeiled g password) V (ofSite w) (ofSite w') :=
  Program.Twins.interpret (S := StationVeiled g password) Program.twins_inl h

/-- What corresponds to itself when it is called in a run. -/
def Unveiled (g : Grant) (password : Secret) (c : Station.Call) : Prop :=
  StationVeiled g password c c Eq

theorem unveiled_note (n : Note) :
    (note (I := Station) n).Makes (Unveiled g password) :=
  Program.makes_call (Pairing.Both.inl (Pairing.Both.inr (.same (.note n) nofun)))

theorem Plain.unveiled : ∀ {c : Station.Call}, Plain c → Unveiled g password c
  | .inl (.inl c), _ => .inl (.inl (.same c))
  | .inl (.inr (.exchange r)), _ => .inl (.inr (.same (.exchange r) nofun))
  | .inl (.inr .drawId), _ => .inl (.inr (.same .drawId nofun))
  | .inl (.inr (.note (.logged e))), _ => .inl (.inr (.same (.note (.logged e)) nofun))
  | .inr .clear, _ => .inr .clear

/-- An attempt in which no seed has a part goes like itself. -/
theorem twins_of_seedless (admin : AdminClient) {w : StationAttempt α}
    (h : w.Composed (Performs admin Call.Seedless)) :
    Attempt.Twins (StationVeiled g password) Eq w w := by
  refine Attempt.twins_of_makes (fun _ => id) (h.makes unveiled_note fun β w step => ?_)
  cases step with
  | call c seedless => exact (c.plain_perform admin seedless).mono fun _ => Plain.unveiled

/-! ## Enrolling -/

theorem twins_observe {V : α → β → Prop} {w : StationAttempt α} {w' : StationAttempt β}
    (h : Attempt.Twins (StationVeiled g password) V w w') (step : StepKind) (realm : String) :
    Attempt.Twins (StationVeiled g password) V (observe step realm w) (observe step realm w') :=
  h.observe (fun n => Program.twins_of_makes (fun _ => id) (unveiled_note n)) step realm

/-- A user is enrolled alike for any seed. -/
theorem twins_credentialEnroller (realm userId username : String) :
    Attempt.Twins (StationVeiled g password) (fun _ _ => True)
      (ofSite (credentialEnroller admin realm userId username))
      (ofSite (credentialEnroller admin realm userId username)) := by
  have draws : Attempt.Twins (StationVeiled g password) (fun _ _ => True)
      (ofSite (ExceptT.lift Seed.draw)) (ofSite (ExceptT.lift Seed.draw)) :=
    twins_ofSite <| Attempt.twins_lift <|
      (twins_host .seed).bind fun _ _ _ => .done trivial
  have removes : PreparesPlainly admin realm
      (Provisioner.removeUserRequiredAction admin realm userId configureTotp) :=
    Provisioner.plainly_removeUserRequiredAction userId configureTotp
  simp only [credentialEnroller, Reading.ofSite_bind, Reading.ofSite_observe]
  refine draws.bind fun seed seed' _ => twins_observe ?_ _ _
  refine (twins_ofSite (twins_putOtpCredential _ _ _ _ _)).bind fun _ _ _ => ?_
  refine (twins_of_seedless admin removes.composed).bind fun _ _ _ => ?_
  refine (twins_ofSite (twins_log _ _ _)).bind fun _ _ _ => ?_
  exact Attempt.twins_pure trivial

namespace Orchestrator

variable {o : Orchestrator}

theorem twins_enrollUser (builtIn : o.enroller = credentialEnroller o.admin)
    (realm userId username : String) :
    Attempt.Twins (StationVeiled g password) (fun _ _ => True)
      (ofSite (o.enrollUser realm userId username)) (ofSite (o.enrollUser realm userId username)) := by
  have enables : PreparesPlainly o.admin realm
      (Provisioner.enableRequiredAction o.admin realm configureTotp) :=
    Provisioner.plainly_enableRequiredAction configureTotp
  have adds : PreparesPlainly o.admin realm
      (Provisioner.addUserRequiredAction o.admin realm userId configureTotp) :=
    Provisioner.plainly_addUserRequiredAction userId configureTotp
  simp only [enrollUser, Reading.ofSite_bind, builtIn]
  refine (twins_of_seedless o.admin enables.composed).bind fun _ _ _ => ?_
  refine (twins_of_seedless o.admin adds.composed).bind fun _ _ _ => ?_
  exact twins_credentialEnroller realm userId username

theorem twins_putSecret (user : String) (secret secret' : Secret) :
    Attempt.Twins (StationVeiled g password) Eq (putSecret user secret) (putSecret user secret') := by
  refine (Program.twins_inr (.put user secret secret')).bind ?_
  rintro result _ rfl
  exact Attempt.twins_ofExcept (stored result)

theorem twins_enrollUsers (builtIn : o.enroller = credentialEnroller o.admin) (realm : String)
    (ids : KeyMap String) (users : List ScenarioUser) :
    Attempt.Twins (StationVeiled g password) Eq (o.enrollUsers realm ids users)
      (o.enrollUsers realm ids users) := by
  induction users with
  | nil => exact Attempt.twins_pure rfl
  | cons user rest ih =>
    rw [enrollUsers]
    split
    · exact Attempt.twins_throw _
    · refine (twins_enrollUser builtIn _ _ _).bind fun seed seed' _ => ?_
      exact (twins_putSecret _ seed seed').bind fun _ _ _ => ih

/-! ## Runs -/

theorem twins_provision (builtIn : o.enroller = credentialEnroller o.admin) (s : Scenario) :
    Attempt.Twins (StationVeiled g password) Eq (o.provision s) (o.provision s) := by
  refine twins_observe ?_ _ _
  refine (twins_of_seedless o.admin (plainly_prepare s).composed).bind ?_
  rintro users _ rfl
  refine (twins_enrollUsers builtIn _ _ _).bind fun _ _ _ => ?_
  refine (twins_of_seedless o.admin s.composed_applyFlow).bind ?_
  rintro build _ rfl
  exact Attempt.twins_pure rfl

theorem twins_provisionAll (builtIn : o.enroller = credentialEnroller o.admin)
    (scenarios : List Scenario) :
    Attempt.Twins (StationVeiled g password) Eq (o.provisionAll scenarios)
      (o.provisionAll scenarios) := by
  induction scenarios with
  | nil => exact Attempt.twins_pure rfl
  | cons s rest ih =>
    refine (twins_provision builtIn s).bind ?_
    rintro report _ rfl
    refine ih.bind ?_
    rintro reports _ rfl
    exact Attempt.twins_pure rfl

/-- A run goes alike for any seeds. -/
theorem twins_run (builtIn : o.enroller = credentialEnroller o.admin) :
    Attempt.Twins (StationVeiled g password) Eq o.run o.run := by
  have clears : Attempt.Twins (StationVeiled g password) Eq clearSecrets clearSecrets :=
    twins_of_seedless o.admin (composed_call .clearSecrets trivial)
  refine clears.bind fun _ _ _ => ?_
  cases o.mail
  case' some mail =>
    have deletes : Attempt.Twins (StationVeiled g password) Eq (ofHost mail.deleteAll)
        (ofHost mail.deleteAll) :=
      twins_of_seedless o.admin (composed_call (.deleteMail mail) trivial)
    refine deletes.bind fun _ _ _ => ?_
  all_goals
    refine (twins_provisionAll builtIn o.scenarios).bind ?_
    rintro reports _ rfl
    exact twins_of_seedless o.admin
      (.bind (.log _ _ _) fun _ => Attempt.composed_pure reports)

end Orchestrator

end RealmSetup
