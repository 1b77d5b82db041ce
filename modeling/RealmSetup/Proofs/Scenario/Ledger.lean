import RealmSetup.Proofs.Effect.Evaluation
import RealmSetup.Proofs.Scenario.Composition

/-!
# A ledger of enrollments

What a run tells at its end names the enrolled users but not their seeds, and a run that fails tells
nothing.  A `Ledgered` attempt keeps a ledger beside what it does, in which it never looks.
`enrollLedgered` calls the enroller and enters what it returned and for whom, as soon as the store has
kept it.

The ledgered forms of enrolling, of setting up a realm and of a run make the same calls as the plain
ones: forgetting the ledger gives back `Orchestrator.run` itself (`runLedgered_entails`).
-/

namespace RealmSetup

/-- A seed that an enroller returned and the store kept. -/
structure Enrollment where
  /-- The realm of the user. -/
  realm : String
  /-- The name of the user. -/
  username : String
  /-- The seed that the enroller returned. -/
  seed : Secret

/-- An attempt that keeps a ledger of enrollments. -/
abbrev Ledgered (α : Type) : Type := ExceptT Error (StateT (List Enrollment) (Program Station)) α

namespace Ledgered

variable {α β : Type}

/-- An attempt that enters nothing. -/
def ofAttempt (w : StationAttempt α) : Ledgered α :=
  ExceptT.mk (StateT.lift w.run)

/-- Enters an enrollment. -/
def enter (e : Enrollment) : Ledgered Unit :=
  ExceptT.mk do
    modify (· ++ [e])
    return .ok ()

/-- Does `work` as a step of a realm; its notes are those of `RealmSetup.observe`. -/
def observe (step : StepKind) (realm : String) (work : Ledgered α) : Ledgered α :=
  ExceptT.mk fun ledger => do
    note (.entered step realm)
    count step .attempt
    match ← (work.run).run ledger with
    | (.ok a, ledger) =>
      count step .success
      return (.ok a, ledger)
    | (.error e, ledger) =>
      note (.logged (failureEntry step realm e))
      count step .failure
      return (.error e, ledger)

/-! ## Forgetting the ledger -/

/-- Whether `w` is what is left of `work` when its ledger is forgotten. -/
def Entails (work : Ledgered α) (w : StationAttempt α) : Prop :=
  ∀ ledger, Prod.fst <$> (work.run).run ledger = w.run

theorem entails_pure (a : α) : Entails (pure a : Ledgered α) (pure a) :=
  fun _ => rfl

theorem entails_throw (e : Error) : Entails (throw e : Ledgered α) (throw e) :=
  fun _ => rfl

theorem entails_ofAttempt (w : StationAttempt α) : Entails (ofAttempt w) w := by
  intro ledger
  have kept : (fun result => Prod.fst <$> (pure (result, ledger) : Program Station _)) =
      (pure : Except Error α → Program Station _) := rfl
  rw [ofAttempt, ExceptT.run_mk, StateT.run_lift, map_bind, kept, bind_pure]

theorem entails_enter (e : Enrollment) : Entails (enter e) (pure ()) :=
  fun _ => rfl

theorem Entails.bind {work : Ledgered α} {w : StationAttempt α} {next : α → Ledgered β}
    {f : α → StationAttempt β} (h : Entails work w) (hnext : ∀ a, Entails (next a) (f a)) :
    Entails (work >>= next) (w >>= f) := by
  intro ledger
  rw [ExceptT.run_bind, ExceptT.run_bind, ← h ledger]
  simp only [StateT.run_bind, map_bind, bind_map_left]
  refine bind_congr fun (result, ledger') => ?_
  cases result with
  | ok a => exact hnext a ledger'
  | error e => rfl

theorem Entails.observe {work : Ledgered α} {w : StationAttempt α} (h : Entails work w)
    (step : StepKind) (realm : String) :
    Entails (Ledgered.observe step realm work) (RealmSetup.observe step realm w) := by
  intro ledger
  simp only [Ledgered.observe, RealmSetup.observe, ExceptT.run_mk, StateT.run, map_bind]
  rw [← h ledger]
  simp only [bind_map_left]
  refine bind_congr fun _ => bind_congr fun _ => bind_congr fun ended => ?_
  obtain ⟨result, ledger'⟩ := ended
  cases result <;> simp only [map_bind] <;> rfl

end Ledgered

open Ledgered StationAttempt

namespace Orchestrator

variable (o : Orchestrator)

/-! ## Runs with a ledger -/

/-- Enrolls a user, and enters for whom the enroller was called and what it returned as soon as the store
has kept it. -/
def enrollLedgered (realm userId username : String) : Ledgered Unit := do
  ofAttempt (ofSite (Provisioner.enableRequiredAction o.admin realm configureTotp))
  ofAttempt (ofSite (Provisioner.addUserRequiredAction o.admin realm userId configureTotp))
  let seed ← ofAttempt (ofSite (o.enroller realm userId username))
  ofAttempt (putSecret username seed)
  enter ⟨realm, username, seed⟩

/-- Enrolls users one after another, with a ledger. -/
def enrollUsersLedgered (realm : String) (ids : KeyMap String) : List ScenarioUser → Ledgered Unit
  | [] => return ()
  | user :: rest => do
    match ids.get? user.username with
    | none => throw (.missingValue ("id of `" ++ user.username ++ "`"))
    | some id =>
      o.enrollLedgered realm id user.username
      enrollUsersLedgered realm ids rest

/-- Sets up the realm of a scenario, with a ledger. -/
def provisionLedgered (s : Scenario) : Ledgered RealmReport :=
  Ledgered.observe .scenario s.realm do
    let users ← ofAttempt (ofSite (o.prepare s))
    let enrolling := s.users.filter ScenarioUser.secondFactor
    o.enrollUsersLedgered s.realm users enrolling
    let build ← ofAttempt (ofSite (o.admin.withFlows (s.applyFlow s.realm)))
    return {
      realm := s.realm
      entryPoint := build.flowAlias
      users
      enrolled := enrolling.map ScenarioUser.username
      build }

/-- Sets up realms one after another, with a ledger. -/
def provisionAllLedgered : List Scenario → Ledgered (List RealmReport)
  | [] => return []
  | s :: rest => do
    let report ← o.provisionLedgered s
    let reports ← provisionAllLedgered rest
    return report :: reports

/-- A whole run, with a ledger. -/
def runLedgered : Ledgered (List RealmReport) := do
  ofAttempt clearSecrets
  match o.mail with
  | none => pure ()
  | some mail => ofAttempt (ofHost mail.deleteAll)
  let reports ← o.provisionAllLedgered o.scenarios
  ofAttempt (ExceptT.lift
    (log .info "provisioning run complete" [("realms", .nat reports.length)]))
  return reports

/-! ## They are the runs themselves -/

theorem enrollLedgered_entails (realm userId username : String) :
    Entails (o.enrollLedgered realm userId username)
      (ofSite (o.enrollUser realm userId username) >>= putSecret username) := by
  simp only [enrollUser, Reading.ofSite_bind, bind_assoc]
  refine (entails_ofAttempt _).bind fun _ => (entails_ofAttempt _).bind fun _ => ?_
  refine (entails_ofAttempt _).bind fun seed => ?_
  have entered := (entails_ofAttempt (putSecret username seed)).bind fun _ =>
    entails_enter ⟨realm, username, seed⟩
  rwa [bind_pure] at entered

theorem enrollUsersLedgered_entails (realm : String) (ids : KeyMap String)
    (users : List ScenarioUser) :
    Entails (o.enrollUsersLedgered realm ids users) (o.enrollUsers realm ids users) := by
  induction users with
  | nil => exact entails_pure ()
  | cons user rest ih =>
    rw [enrollUsersLedgered, enrollUsers]
    cases ids.get? user.username with
    | none => exact entails_throw _
    | some id =>
      have enrolled := (o.enrollLedgered_entails realm id user.username).bind fun _ => ih
      rwa [bind_assoc] at enrolled

theorem provisionLedgered_entails (s : Scenario) :
    Entails (o.provisionLedgered s) (o.provision s) :=
  Entails.observe ((entails_ofAttempt _).bind fun users =>
    (o.enrollUsersLedgered_entails s.realm users _).bind fun _ =>
      (entails_ofAttempt _).bind fun _ => entails_pure _) _ _

theorem provisionAllLedgered_entails (scenarios : List Scenario) :
    Entails (o.provisionAllLedgered scenarios) (o.provisionAll scenarios) := by
  induction scenarios with
  | nil => exact entails_pure []
  | cons s rest ih =>
    exact (o.provisionLedgered_entails s).bind fun _ => ih.bind fun _ => entails_pure _

/-- Forgetting the ledger of a run gives back the run. -/
theorem runLedgered_entails : Entails o.runLedgered o.run := by
  refine (entails_ofAttempt _).bind fun _ => ?_
  have provisioned := (o.provisionAllLedgered_entails o.scenarios).bind fun reports =>
    (entails_ofAttempt (ExceptT.lift (log .info "provisioning run complete"
      [("realms", .nat reports.length)]))).bind fun _ => entails_pure reports
  cases o.mail with
  | none => exact provisioned
  | some mail => exact (entails_ofAttempt _).bind fun _ => provisioned

end Orchestrator

end RealmSetup
