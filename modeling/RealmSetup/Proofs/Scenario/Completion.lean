import RealmSetup.Proofs.Effect.Transcripts
import RealmSetup.Proofs.Scenario.Seeds

/-!
# Runs that stop anywhere

A run may stop at any call: before a credential is written, between that and the removal of the action
it fulfils, or after a seed was kept.  Wherever it stops, the store in memory holds what the ledger of
the run amounts to, because a seed is entered as soon as it is kept, and nothing else writes to the
store (`Ledgered.Settles`).  Since a run empties the store before anything else, nothing of what the
store held earlier is left (`Orchestrator.run_holds_completed`).
-/

namespace RealmSetup

/-- A ledger amounts to a seed exactly if its last enrollment of the user is with that seed. -/
theorem heldAfter_eq_some_iff {ledger : List Enrollment} {user : String} {seed : Secret} :
    heldAfter ledger user = some seed ↔
      ∃ before e after, ledger = before ++ e :: after ∧ e.username = user ∧ e.seed = seed ∧
        ∀ x ∈ after, x.username ≠ user := by
  constructor
  · intro held
    obtain ⟨last, found, rfl⟩ := Option.map_eq_some_iff.1 held
    obtain rfl : last.username = user := by simpa using List.find?_some found
    have among : last ∈ ledger := List.mem_reverse.1 (List.mem_of_find?_eq_some found)
    obtain ⟨before, e, after, rfl, named, none_later⟩ :=
      exists_last_enrollment (List.mem_map_of_mem among)
    rw [← named] at held none_later ⊢
    rw [heldAfter_of_last none_later] at held
    exact ⟨before, e, after, rfl, rfl, Option.some.inj held, none_later⟩
  · rintro ⟨before, e, after, rfl, rfl, rfl, none_later⟩
    exact heldAfter_of_last none_later

namespace Ledgered

variable {τ α β : Type} {env : Answering Site τ}

/-- However an attempt ends, a store in memory that holds what its ledger amounts to does so again. -/
def Settles (env : Answering Site τ) (work : Ledgered α) : Prop :=
  ∀ ledger t (v : MemoryVault), v.secrets.get? = heldAfter ledger →
    (eval env MemoryVault.store work ledger (t, v)).2.2.secrets.get? =
      heldAfter (eval env MemoryVault.store work ledger (t, v)).1.2

theorem settles_pure (a : α) : Settles env (pure a) :=
  fun _ _ _ held => held

theorem settles_throw (e : Error) : Settles env (throw e : Ledgered α) :=
  fun _ _ _ held => held

theorem Settles.bind {work : Ledgered α} {next : α → Ledgered β} (h : Settles env work)
    (hnext : ∀ a, Settles env (next a)) : Settles env (work >>= next) := by
  intro ledger t v held
  have settled := h ledger t v held
  rw [eval_bind]
  generalize eval env MemoryVault.store work ledger (t, v) = ended at settled
  obtain ⟨⟨result, ledger'⟩, t', v'⟩ := ended
  cases result with
  | ok a => exact hnext a ledger' t' v' settled
  | error e => exact settled

/-- An attempt that leaves the store alone leaves the ledger alone. -/
theorem settles_of_untouched {w : StationAttempt α}
    (h : ∀ t s, (Attempt.eval (env.beside MemoryVault.store.answer) w (t, s)).2.2 = s) :
    Settles env (ofAttempt w) := by
  intro ledger t v held
  rw [eval_ofAttempt, h]
  exact held

theorem settles_ofSite (w : SiteAttempt α) : Settles env (ofAttempt (StationAttempt.ofSite w)) :=
  settles_of_untouched (untouched_ofSite w)

theorem settles_ofHost (w : HostAttempt α) : Settles env (ofAttempt (StationAttempt.ofHost w)) :=
  settles_of_untouched (untouched_ofHost w)

theorem Settles.observe {work : Ledgered α} (h : Settles env work) (step : StepKind)
    (realm : String) : Settles env (Ledgered.observe step realm work) := by
  intro ledger t v held
  obtain ⟨t₁, t₂, observed⟩ := eval_observe env MemoryVault.store work step realm ledger t v
  rw [observed]
  exact h ledger t₁ v held

/-- The store in memory keeps every seed, so that what an enroller returned is entered at once. -/
theorem settles_put (e : Enrollment) :
    Settles env (do ofAttempt (StationAttempt.putSecret e.username e.seed); enter e) := by
  intro ledger t v held
  show (v.secrets.insert e.username e.seed).get? = heldAfter (ledger ++ [e])
  rw [KeyMap.get?_insert_eq_update, held, heldAfter_append_singleton]

end Ledgered

namespace Orchestrator

open Ledgered StationAttempt

variable {τ : Type} (o : Orchestrator) (env : Answering Site τ)

theorem settles_enroll (realm userId username : String) :
    Settles env (o.enrollLedgered realm userId username) :=
  (settles_ofSite _).bind fun _ => (settles_ofSite _).bind fun _ =>
    (settles_ofSite _).bind fun seed => settles_put ⟨realm, username, seed⟩

theorem settles_enrollUsers (realm : String) (ids : KeyMap String) (users : List ScenarioUser) :
    Settles env (o.enrollUsersLedgered realm ids users) := by
  induction users with
  | nil => exact settles_pure ()
  | cons user rest ih =>
    rw [enrollUsersLedgered]
    cases ids.get? user.username with
    | none => exact settles_throw _
    | some id => exact (o.settles_enroll env realm id user.username).bind fun _ => ih

theorem settles_provision (s : Scenario) : Settles env (o.provisionLedgered s) := by
  refine Settles.observe ?_ _ _
  exact (settles_ofSite _).bind fun users => (o.settles_enrollUsers env s.realm users _).bind fun _ =>
    (settles_ofSite _).bind fun build => settles_pure _

theorem settles_provisionAll (scenarios : List Scenario) :
    Settles env (o.provisionAllLedgered scenarios) := by
  induction scenarios with
  | nil => exact settles_pure []
  | cons s rest ih =>
    exact (o.settles_provision env s).bind fun report => ih.bind fun reports => settles_pure _

theorem settles_runOnEmpty : Settles env o.runOnEmpty := by
  have provisioned := (o.settles_provisionAll env o.scenarios).bind fun reports =>
    (settles_of_untouched (w := ExceptT.lift (log .info "provisioning run complete"
      [("realms", .nat reports.length)])) fun _ _ => rfl).bind fun _ => settles_pure reports
  rw [runOnEmpty]
  cases o.mail with
  | none => exact provisioned
  | some mail => exact (settles_ofHost _).bind fun _ => provisioned

/-- A run that was given a store in memory goes on with an empty one and an empty ledger. -/
theorem eval_runLedgered (t : τ) (v : MemoryVault) :
    Ledgered.eval env MemoryVault.store o.runLedgered [] (t, v) =
      Ledgered.eval env MemoryVault.store o.runOnEmpty [] (t, .start) :=
  rfl

/-- Before anything else a run empties its store. -/
theorem run_clears_first {events : List (Event Station)} {result : Except Error (List RealmReport)}
    (takes : o.run.run.Takes events result) :
    ∃ answer rest, events = ⟨.inr .clear, answer⟩ :: rest := by
  obtain ⟨answer, rest, rfl, -⟩ := takes
  exact ⟨answer, rest, rfl⟩

/-- However a run ends, with whatever enroller, server and former contents of the store, the store
holds a seed for just those users for whom an enrollment was completed in the run, namely that of the
last one, and the store was emptied before anything was asked of a server. -/
theorem run_holds_completed (t : τ) (v : MemoryVault) :
    let ended := Attempt.eval (env.beside MemoryVault.store.answer) o.run (t, v)
    ∃ ledger,
      Ledgered.eval env MemoryVault.store o.runLedgered [] (t, v) = ((ended.1, ledger), ended.2) ∧
      (∀ user seed, ended.2.2.secrets.get? user = some seed ↔
        ∃ before e after, ledger = before ++ e :: after ∧ e.username = user ∧ e.seed = seed ∧
          ∀ x ∈ after, x.username ≠ user) ∧
      ∀ events result, o.run.run.Takes events result →
        ∃ answer rest, events = ⟨.inr .clear, answer⟩ :: rest := by
  intro ended
  -- With its ledger left out, the run with a ledger is the run.
  have forgotten : ((Ledgered.eval env MemoryVault.store o.runLedgered [] (t, v)).1.1,
      (Ledgered.eval env MemoryVault.store o.runLedgered [] (t, v)).2) = ended := by
    have entails := o.runLedgered_entails []
    show _ = Program.eval _ o.run.run (t, v)
    rw [← entails, Program.eval_map]
    rfl
  have settled := o.settles_runOnEmpty env [] t .start rfl
  rw [← eval_runLedgered o env t v] at settled
  generalize Ledgered.eval env MemoryVault.store o.runLedgered [] (t, v) = run at forgotten settled
  obtain ⟨⟨result, ledger⟩, t', v'⟩ := run
  rw [← forgotten]
  refine ⟨ledger, rfl, fun user seed => ?_, fun events result takes => o.run_clears_first takes⟩
  rw [← heldAfter_eq_some_iff, ← settled]

end Orchestrator

end RealmSetup
