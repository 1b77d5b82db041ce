import Mathlib.Data.List.Basic
import RealmSetup.Proofs.Scenario.Ledger
import RealmSetup.Proofs.Store.Contents

/-!
# The seeds that a run leaves in its store

The store of a run is keyed by the name of the user alone, while the same name may be enrolled in
several realms, and more than once in one.  `heldAfter` says what a ledger of enrollments amounts to:
for each name the seed entered last.  `Keeps` carries through every part of a run that the store holds
just this, for whatever server, tokens, clock and enroller.

The main statement is `run_keeps_last_seeds`: after a run that succeeds the store holds, for every name
in a report, the seed of the last enrollment under that name, so that a seed is lost only to a later
enrollment of the same name.  That it can be lost so is `run_loses_seed_of_shared_name`.
-/

namespace RealmSetup

/-- The seed of the last enrollment of a user in a ledger. -/
def heldAfter (ledger : List Enrollment) (user : String) : Option Secret :=
  (ledger.reverse.find? fun e => e.username = user).map Enrollment.seed

theorem heldAfter_append_singleton (ledger : List Enrollment) (e : Enrollment) :
    heldAfter (ledger ++ [e]) = Function.update (heldAfter ledger) e.username (some e.seed) := by
  funext user
  by_cases same : e.username = user
  · simp [heldAfter, same]
  · simp [heldAfter, same, Ne.symm same]

/-- An enrollment that is not repeated later is the one that counts. -/
theorem heldAfter_of_last {before after : List Enrollment} {e : Enrollment}
    (h : ∀ x ∈ after, x.username ≠ e.username) :
    heldAfter (before ++ e :: after) e.username = some e.seed := by
  have none_later : after.reverse.find? (fun x => x.username = e.username) = none := by
    simpa [List.find?_eq_none] using h
  simp [heldAfter, List.find?_append, none_later]

/-- The last enrollment of a name that was entered at all. -/
theorem exists_last_enrollment {ledger : List Enrollment} {user : String}
    (h : user ∈ ledger.map Enrollment.username) :
    ∃ before e after, ledger = before ++ e :: after ∧ e.username = user ∧
      ∀ x ∈ after, x.username ≠ user := by
  induction ledger with
  | nil => simp at h
  | cons e rest ih =>
    by_cases later : user ∈ rest.map Enrollment.username
    · obtain ⟨before, last, after, rfl, hlast, hafter⟩ := ih later
      exact ⟨e :: before, last, after, rfl, hlast, hafter⟩
    · refine ⟨[], e, rest, rfl, ?_, fun x hx hname => later ?_⟩
      · rw [List.map_cons, List.mem_cons] at h
        exact (h.resolve_right later).symm
      · exact List.mem_map.2 ⟨x, hx, hname⟩

namespace Ledgered

variable {τ σ α β : Type} (env : Answering Site τ) (store : SecretStore σ)

/-- The ending of an attempt with a ledger, the ledger, and the state that is left. -/
def eval (work : Ledgered α) (ledger : List Enrollment) (s : τ × σ) :
    (Except Error α × List Enrollment) × (τ × σ) :=
  ((work.run).run ledger).eval (env.beside store.answer) s

theorem eval_bind (work : Ledgered α) (next : α → Ledgered β) (ledger : List Enrollment)
    (s : τ × σ) :
    eval env store (work >>= next) ledger s =
      match eval env store work ledger s with
      | ((.ok a, ledger'), s') => eval env store (next a) ledger' s'
      | ((.error e, ledger'), s') => ((.error e, ledger'), s') := by
  simp only [eval, ExceptT.run_bind, StateT.run_bind, Program.eval_bind]
  cases ((work.run).run ledger).eval (env.beside store.answer) s with
  | mk result s' =>
    obtain ⟨result, ledger'⟩ := result
    cases result <;> rfl

/-- What an attempt does to a store that holds what its ledger amounts to: if it succeeds, so the store
does again, and `P` holds of the value and of what was entered. -/
def Keeps (work : Ledgered α) (P : α → List Enrollment → Prop) : Prop :=
  ∀ ledger t s, store.held s = heldAfter ledger →
    ∀ a ledger' t' s', eval env store work ledger (t, s) = ((.ok a, ledger'), (t', s')) →
      store.held s' = heldAfter ledger' ∧ ∃ entered, ledger' = ledger ++ entered ∧ P a entered

variable {env store} {work : Ledgered α} {P : α → List Enrollment → Prop}

theorem Keeps.mono {Q : α → List Enrollment → Prop} (h : Keeps env store work P)
    (hPQ : ∀ a entered, P a entered → Q a entered) : Keeps env store work Q := by
  intro ledger t s held a ledger' t' s' hrun
  obtain ⟨held', entered, rfl, hP⟩ := h ledger t s held a ledger' t' s' hrun
  exact ⟨held', entered, rfl, hPQ a entered hP⟩

theorem Keeps.bind {next : α → Ledgered β} {Q : β → List Enrollment → Prop}
    (h : Keeps env store work P)
    (hnext : ∀ a entered, P a entered →
      Keeps env store (next a) fun b more => Q b (entered ++ more)) :
    Keeps env store (work >>= next) Q := by
  intro ledger t s held b ledger' t' s' hrun
  rw [eval_bind] at hrun
  cases hwork : eval env store work ledger (t, s) with
  | mk result middle =>
    obtain ⟨result, ledger₁⟩ := result
    obtain ⟨t₁, s₁⟩ := middle
    cases result with
    | error e => rw [hwork] at hrun; cases hrun
    | ok a =>
      rw [hwork] at hrun
      obtain ⟨held₁, entered, rfl, hP⟩ := h ledger t s held a ledger₁ t₁ s₁ hwork
      obtain ⟨held', more, rfl, hQ⟩ := hnext a entered hP _ t₁ s₁ held₁ b ledger' t' s' hrun
      exact ⟨held', entered ++ more, List.append_assoc _ _ _, hQ⟩

theorem keeps_pure (a : α) : Keeps env store (pure a) fun b entered => b = a ∧ entered = [] := by
  intro ledger t s held b ledger' t' s' hrun
  cases hrun
  exact ⟨held, [], (List.append_nil ledger).symm, rfl, rfl⟩

theorem keeps_throw (e : Error) : Keeps env store (throw e : Ledgered α) P := by
  intro ledger t s held a ledger' t' s' hrun
  cases hrun

theorem eval_ofAttempt (w : StationAttempt α) (ledger : List Enrollment) (s : τ × σ) :
    eval env store (ofAttempt w) ledger s =
      (((Attempt.eval (env.beside store.answer) w s).1, ledger),
        (Attempt.eval (env.beside store.answer) w s).2) := by
  simp only [eval, ofAttempt, ExceptT.run_mk, StateT.run_lift, Program.eval_bind]
  rfl

/-- An attempt that leaves the store alone enters nothing. -/
theorem keeps_of_untouched {w : StationAttempt α}
    (h : ∀ t s, (Attempt.eval (env.beside store.answer) w (t, s)).2.2 = s) :
    Keeps env store (ofAttempt w) fun _ entered => entered = [] := by
  intro ledger t s held a ledger' t' s' hrun
  rw [eval_ofAttempt, Prod.mk.injEq, Prod.mk.injEq] at hrun
  obtain ⟨⟨-, rfl⟩, hstate⟩ := hrun
  have untouched : s' = s := by rw [← h t s, hstate]
  exact ⟨untouched ▸ held, [], (List.append_nil ledger).symm, rfl⟩

/-- A client that sends tokens has no part in the store. -/
theorem untouched_ofSite (w : SiteAttempt α) (t : τ) (s : σ) :
    (Attempt.eval (env.beside store.answer) (StationAttempt.ofSite w) (t, s)).2.2 = s :=
  congrArg (fun r => r.2.2) (Answering.eval_interpret_inl env store.answer w.run t s)

/-- Neither has one that sends none. -/
theorem untouched_ofHost (w : HostAttempt α) (t : τ) (s : σ) :
    (Attempt.eval (env.beside store.answer) (StationAttempt.ofHost w) (t, s)).2.2 = s := by
  suffices ∀ (p : Program Host (Except Error α)) t,
      ((p.interpret fun c => Program.call (I := Station) (.inl (.inr c))).eval
        (env.beside store.answer) (t, s)).2.2 = s from this w.run t
  intro p
  induction p with
  | done a => exact fun _ => rfl
  | ask c next ih => exact fun t => ih _ _

theorem keeps_ofSite (w : SiteAttempt α) :
    Keeps env store (ofAttempt (StationAttempt.ofSite w)) fun _ entered => entered = [] :=
  keeps_of_untouched (untouched_ofSite w)

theorem keeps_ofHost (w : HostAttempt α) :
    Keeps env store (ofAttempt (StationAttempt.ofHost w)) fun _ entered => entered = [] :=
  keeps_of_untouched (untouched_ofHost w)

/-- A note changes nothing in the store. -/
theorem eval_note (env : Answering Site τ) (store : SecretStore σ) (n : Note) (t : τ) (s : σ) :
    ∃ t', (note (I := Station) n).eval (env.beside store.answer) (t, s) = ((), t', s) :=
  ⟨((env (.inr (.note n))).run t).2, rfl⟩

/-- An observed step ends as the step does, with its ledger and its store. -/
theorem eval_observe (env : Answering Site τ) (store : SecretStore σ) (work : Ledgered α)
    (step : StepKind) (realm : String) (ledger : List Enrollment) (t : τ) (s : σ) :
    ∃ t₁ t₂, eval env store (Ledgered.observe step realm work) ledger (t, s) =
      ((eval env store work ledger (t₁, s)).1, t₂, (eval env store work ledger (t₁, s)).2.2) := by
  obtain ⟨t₀, entered⟩ := eval_note env store (.entered step realm) t s
  obtain ⟨t₁, counted⟩ := eval_note env store (.counted step .attempt) t₀ s
  refine ⟨t₁, ?_⟩
  simp only [eval, Ledgered.observe, ExceptT.run_mk, count, Program.eval_bind, StateT.run, entered,
    counted]
  generalize (work.run ledger).eval (env.beside store.answer) (t₁, s) = ended
  obtain ⟨⟨result, ledger'⟩, t', s'⟩ := ended
  cases result with
  | error e =>
    obtain ⟨t₂, warned⟩ := eval_note env store (.logged (failureEntry step realm e)) t' s'
    obtain ⟨t₃, failed⟩ := eval_note env store (.counted step .failure) t₂ s'
    exact ⟨t₃, by simp only [Program.eval_bind, warned, failed, Program.eval_pure]⟩
  | ok b =>
    obtain ⟨t₂, succeeded⟩ := eval_note env store (.counted step .success) t' s'
    exact ⟨t₂, by simp only [Program.eval_bind, succeeded, Program.eval_pure]⟩

theorem Keeps.observe (h : Keeps env store work P) (step : StepKind) (realm : String) :
    Keeps env store (Ledgered.observe step realm work) P := by
  intro ledger t s held a ledger' t' s' hrun
  obtain ⟨t₁, t₂, observed⟩ := eval_observe env store work step realm ledger t s
  cases hwork : eval env store work ledger (t₁, s) with
  | mk result middle =>
    rw [observed, hwork] at hrun
    cases hrun
    exact h ledger t₁ s held a ledger' middle.1 middle.2 hwork

/-- Keeping a seed and entering it belong together: between the two the store is ahead of the
ledger. -/
theorem keeps_put (e : Enrollment) :
    Keeps env store (do ofAttempt (StationAttempt.putSecret e.username e.seed); enter e)
      fun _ entered => entered = [e] := by
  intro ledger t s held a ledger' t' s' hrun
  have putting : Attempt.eval (env.beside store.answer)
      (StationAttempt.putSecret e.username e.seed) (t, s) =
        (StationAttempt.stored ((store.answer (.put e.username e.seed)).run s).1, t,
          ((store.answer (.put e.username e.seed)).run s).2) := rfl
  rw [eval_bind, eval_ofAttempt, putting] at hrun
  have acknowledged := store.held_put e.username e.seed s
  cases hput : (((store.answer (.put e.username e.seed)).run s).1 : Except StoreError Unit) with
  | error cause =>
    rw [hput] at hrun
    cases hrun
  | ok _ =>
    rw [hput] at hrun
    cases hrun
    refine ⟨?_, [e], rfl, rfl⟩
    rw [acknowledged hput, held, heldAfter_append_singleton]

end Ledgered

/-! ## Runs -/

/-- For whom an enrollment was: the realm and the name. -/
def Enrollment.subject (e : Enrollment) : String × String := (e.realm, e.username)

/-- Those enrolled in a realm, in order, as its report tells them. -/
def RealmReport.subjects (r : RealmReport) : List (String × String) :=
  r.enrolled.map fun username => (r.realm, username)

/-- What a store tells after a run: of each name in a report the seed of its last enrollment, the
ledger being about just those whom the reports call enrolled. -/
structure LastSeedsHeld {σ : Type} (store : SecretStore σ) (s : σ) (reports : List RealmReport)
    (ledger : List Enrollment) : Prop where
  /-- The ledger is about those whom the reports call enrolled, in their order. -/
  subjects : ledger.map Enrollment.subject = reports.flatMap RealmReport.subjects
  /-- Each of their names has a last enrollment, whose seed is there. -/
  enrolled : ∀ report ∈ reports, ∀ user ∈ report.enrolled,
    ∃ before e after, ledger = before ++ e :: after ∧ e.username = user ∧
      (∀ x ∈ after, x.username ≠ user) ∧
      ((store.answer (.get user)).run s).1 = Except.ok (some e.seed)
  /-- The seed of an enrollment is there unless a later one is under the same name. -/
  kept : ∀ before e after, ledger = before ++ e :: after →
    (∀ x ∈ after, x.username ≠ e.username) →
      ((store.answer (.get e.username)).run s).1 = Except.ok (some e.seed)

namespace Orchestrator

open Ledgered StationAttempt

variable {τ σ : Type} (o : Orchestrator) (env : Answering Site τ) (store : SecretStore σ)

/-- Whoever is enrolled is entered, for whom and with the seed that the enroller returned. -/
theorem keeps_enroll (realm userId username : String) :
    Keeps env store (o.enrollLedgered realm userId username) fun _ entered =>
      ∃ seed, entered = [⟨realm, username, seed⟩] := by
  refine (keeps_ofSite _).bind fun _ none₁ h₁ => (keeps_ofSite _).bind fun _ none₂ h₂ => ?_
  refine (keeps_ofSite _).bind fun seed none₃ h₃ => ?_
  refine (keeps_put ⟨realm, username, seed⟩).mono ?_
  rintro _ _ rfl
  subst h₁ h₂ h₃
  exact ⟨seed, rfl⟩

theorem keeps_enrollUsers (realm : String) (ids : KeyMap String) (users : List ScenarioUser) :
    Keeps env store (o.enrollUsersLedgered realm ids users) fun _ entered =>
      entered.map Enrollment.subject = users.map fun u => (realm, u.username) := by
  induction users with
  | nil =>
    refine (keeps_pure ()).mono ?_
    rintro _ _ ⟨-, rfl⟩
    rfl
  | cons user rest ih =>
    rw [enrollUsersLedgered]
    cases ids.get? user.username with
    | none => exact keeps_throw _
    | some id =>
      refine (o.keeps_enroll env store realm id user.username).bind fun _ entered hentered => ?_
      obtain ⟨seed, rfl⟩ := hentered
      refine ih.mono fun _ more hmore => ?_
      simp [hmore, Enrollment.subject]

theorem keeps_provision (s : Scenario) :
    Keeps env store (o.provisionLedgered s) fun report entered =>
      entered.map Enrollment.subject = report.subjects := by
  refine Keeps.observe ?_ _ _
  refine (keeps_ofSite _).bind fun users none₁ h₁ => ?_
  refine (o.keeps_enrollUsers env store s.realm users _).bind fun _ entered hentered => ?_
  refine (keeps_ofSite _).bind fun build none₂ h₂ => ?_
  refine (keeps_pure _).mono ?_
  rintro _ none₃ ⟨rfl, h₃⟩
  subst h₁ h₂ h₃
  simp [RealmReport.subjects, hentered]

theorem keeps_provisionAll (scenarios : List Scenario) :
    Keeps env store (o.provisionAllLedgered scenarios) fun reports entered =>
      entered.map Enrollment.subject = reports.flatMap RealmReport.subjects := by
  induction scenarios with
  | nil =>
    refine (keeps_pure _).mono ?_
    rintro _ _ ⟨rfl, rfl⟩
    rfl
  | cons s rest ih =>
    refine (o.keeps_provision env store s).bind fun report entered hreport => ?_
    refine ih.bind fun reports more hreports => ?_
    refine (keeps_pure _).mono ?_
    rintro _ _ ⟨rfl, rfl⟩
    simp [hreport, hreports]

/-- The part of a run after the store was emptied. -/
def runOnEmpty : Ledgered (List RealmReport) := do
  match o.mail with
  | none => pure ()
  | some mail => ofAttempt (ofHost mail.deleteAll)
  let reports ← o.provisionAllLedgered o.scenarios
  ofAttempt (ExceptT.lift
    (log .info "provisioning run complete" [("realms", .nat reports.length)]))
  return reports

theorem keeps_runOnEmpty :
    Keeps env store o.runOnEmpty fun reports entered =>
      entered.map Enrollment.subject = reports.flatMap RealmReport.subjects := by
  have provisioned : Keeps env store
      (do
        let reports ← o.provisionAllLedgered o.scenarios
        ofAttempt (ExceptT.lift
          (log .info "provisioning run complete" [("realms", .nat reports.length)]))
        return reports)
      fun reports entered =>
        entered.map Enrollment.subject = reports.flatMap RealmReport.subjects := by
    refine (o.keeps_provisionAll env store o.scenarios).bind fun reports entered hentered => ?_
    refine (keeps_of_untouched fun t s => rfl).bind fun _ none₁ h₁ => ?_
    refine (keeps_pure _).mono ?_
    rintro _ none₂ ⟨rfl, h₂⟩
    subst h₁ h₂
    simp [hentered]
  rw [runOnEmpty]
  cases o.mail with
  | none => exact provisioned
  | some mail =>
    refine (keeps_ofHost _).bind fun _ none₁ h₁ => ?_
    subst h₁
    exact provisioned

/-- After a run that succeeds, the store holds what the ledger of the run amounts to, and the ledger
is about those whom the reports call enrolled, in their order. -/
theorem held_of_run {t t' : τ} {s s' : σ} {reports : List RealmReport}
    (h : Attempt.eval (env.beside store.answer) o.run (t, s) = (.ok reports, t', s')) :
    ∃ ledger, Ledgered.eval env store o.runLedgered [] (t, s) = ((.ok reports, ledger), t', s') ∧
      ledger.map Enrollment.subject = reports.flatMap RealmReport.subjects ∧
      store.held s' = heldAfter ledger := by
  -- With its ledger left out, the run with a ledger is the run.
  have forgotten : (Ledgered.eval env store o.runLedgered [] (t, s)).1.1 = .ok reports ∧
      (Ledgered.eval env store o.runLedgered [] (t, s)).2 = (t', s') := by
    rw [Attempt.eval, ← o.runLedgered_entails [], Program.eval_map, Prod.mk.injEq] at h
    exact h
  cases hrun : Ledgered.eval env store o.runLedgered [] (t, s) with
  | mk result middle =>
    obtain ⟨result, ledger⟩ := result
    rw [hrun] at forgotten
    obtain ⟨rfl, rfl⟩ := forgotten
    refine ⟨ledger, rfl, ?_⟩
    have clearing : Attempt.eval (env.beside store.answer) clearSecrets (t, s) =
        (stored ((store.answer .clear).run s).1, t, ((store.answer .clear).run s).2) := rfl
    rw [runLedgered, eval_bind, eval_ofAttempt, clearing] at hrun
    have emptied := store.held_clear s
    cases hclear : (((store.answer .clear).run s).1 : Except StoreError Unit) with
    | error cause =>
      rw [hclear] at hrun
      cases hrun
    | ok _ =>
      rw [hclear] at hrun
      obtain ⟨held, entered, rfl, hentered⟩ :=
        o.keeps_runOnEmpty env store [] t _ (emptied hclear) reports ledger t' s' hrun
      exact ⟨hentered, held⟩

/-- After a run that succeeds, with whatever enroller, server and former contents of the store, each
name in a report has its last seed in the store.  So an enrollment keeps its seed unless a later one of
the run, in the same realm or another, is under the same name. -/
theorem run_keeps_last_seeds {t t' : τ} {s s' : σ} {reports : List RealmReport}
    (h : Attempt.eval (env.beside store.answer) o.run (t, s) = (.ok reports, t', s')) :
    ∃ ledger, Ledgered.eval env store o.runLedgered [] (t, s) = ((.ok reports, ledger), t', s') ∧
      LastSeedsHeld store s' reports ledger := by
  obtain ⟨ledger, hledger, hsubjects, hheld⟩ := o.held_of_run env store h
  have kept : ∀ before e after, ledger = before ++ e :: after →
      (∀ x ∈ after, x.username ≠ e.username) →
        ((store.answer (.get e.username)).run s').1 = Except.ok (some e.seed) := by
    rintro before e after rfl hlast
    have read := store.get_eq e.username s'
    rwa [hheld, heldAfter_of_last hlast] at read
  refine ⟨ledger, hledger, hsubjects, fun report hreport user huser => ?_, kept⟩
  have entered : user ∈ ledger.map Enrollment.username := by
    have subject : (report.realm, user) ∈ ledger.map Enrollment.subject := by
      rw [hsubjects]
      exact List.mem_flatMap.2 ⟨report, hreport, List.mem_map.2 ⟨user, huser, rfl⟩⟩
    obtain ⟨e, he, hsubject⟩ := List.mem_map.1 subject
    exact List.mem_map.2 ⟨e, he, congrArg Prod.snd hsubject⟩
  obtain ⟨before, e, after, rfl, rfl, hlast⟩ := exists_last_enrollment entered
  exact ⟨before, e, after, rfl, rfl, hlast, kept before e after rfl hlast⟩

/-! ## A name shared by two realms -/

/-- A server that gives prepared replies in order, at a standing clock. -/
def prepared : Answering Site (List Reply)
  | .inl .get => pure (.ok ⟨"token"⟩)
  | .inl .drop => pure ()
  | .inr (.exchange _) => fun
    | [] => (.error "closed", [])
    | reply :: rest => (.ok reply, rest)
  | .inr .now => pure (.ofUnixSecs 0)
  | .inr .elapsed => pure ⟨0⟩
  | .inr (.sleep _) => pure ()
  | .inr .drawSeed => pure (0 : Nat)
  | .inr .drawId => pure (0 : Nat)
  | .inr (.note _) => pure ()

/-- A reply with a status and a body. -/
def reply (status : Nat) (body : String) : Reply :=
  ⟨status, some "application/json", some (Utf8.encode body)⟩

/-- A realm with one user, who is to have a second factor. -/
def oneUserRealm (realm : String) : Scenario :=
  ⟨realm, [], [⟨"ann", [], true⟩], none, .fresh ⟨"login", "", .basic, []⟩⟩

/-- The user as the server tells it, whom a second factor was asked of before. -/
def oneUser : String :=
  "\x7b\"id\":\"1\",\"username\":\"ann\",\"requiredActions\":[\"CONFIGURE_TOTP\"]\x7d"

/-- The replies to setting up a realm with one user: to deletion and creation of the realm; to the
question for an action that is not known; to mail transport and client; to creation and search of the
user; to the list of required actions, the new one and the question for it; to the question for the
user; to the list of flows, the new flow and its binding. -/
def oneUserReplies : List Reply :=
  [reply 204 "", reply 201 "", reply 404 "", reply 204 "", reply 200 "[]", reply 201 "",
    reply 201 "", reply 200 ("[" ++ oneUser ++ "]"), reply 200 "[]", reply 201 "",
    reply 200 "\x7b\"alias\":\"CONFIGURE_TOTP\",\"enabled\":true\x7d", reply 200 oneUser,
    reply 200 "[]", reply 201 "", reply 204 ""]

/-- Two realms with a user of the same name; each seed is the name of its realm. -/
def sharedName : Orchestrator where
  admin := ⟨⟨⟨"http", "", "", some "h", none, .segments [], false, none, none⟩, [], rfl⟩⟩
  enroller := fun realm _ _ => return ⟨realm⟩
  mail := none
  transport := Catalog.mailTransport
  scenarios := [oneUserRealm "a", oneUserRealm "b"]

/-- The run of both realms ends well, and the second seed is left. -/
theorem sharedName_succeeds :
    ∃ reports left store,
      Attempt.eval (prepared.beside MemoryVault.store.answer) sharedName.run
          (oneUserReplies ++ oneUserReplies, .start) = (.ok reports, left, store) ∧
        store.secrets.get? "ann" = some ⟨"b"⟩ := by
  have succeeds : (Attempt.eval (prepared.beside MemoryVault.store.answer) sharedName.run
      (oneUserReplies ++ oneUserReplies, .start)).1.isOk = true := by
    decide +kernel
  have second : (Attempt.eval (prepared.beside MemoryVault.store.answer) sharedName.run
      (oneUserReplies ++ oneUserReplies, .start)).2.2.secrets.get? "ann" = some ⟨"b"⟩ := by
    decide +kernel
  generalize Attempt.eval (prepared.beside MemoryVault.store.answer) sharedName.run
    (oneUserReplies ++ oneUserReplies, .start) = ending at succeeds second
  obtain ⟨result, left, store⟩ := ending
  cases result with
  | ok reports => exact ⟨reports, left, store, rfl, second⟩
  | error e => cases succeeds

theorem run_keeps_last_seeds_of_shared_name :
    ∃ reports left store,
      Attempt.eval (prepared.beside MemoryVault.store.answer) sharedName.run
          (oneUserReplies ++ oneUserReplies, .start) = (.ok reports, left, store) ∧
        ∃ ledger,
          Ledgered.eval prepared MemoryVault.store sharedName.runLedgered []
              (oneUserReplies ++ oneUserReplies, .start) = ((.ok reports, ledger), left, store) ∧
            LastSeedsHeld MemoryVault.store store reports ledger := by
  obtain ⟨reports, left, store, h, -⟩ := sharedName_succeeds
  exact ⟨reports, left, store, h, sharedName.run_keeps_last_seeds prepared MemoryVault.store h⟩

/-- Not every seed that an enroller returned in a successful run is in the store at its end. -/
theorem run_loses_seed_of_shared_name :
    ¬ ∀ (o : Orchestrator) (env : Answering Site (List Reply)) (t t' : List Reply)
        (s s' : MemoryVault) (reports : List RealmReport) (ledger : List Enrollment),
      Attempt.eval (env.beside MemoryVault.store.answer) o.run (t, s) = (.ok reports, t', s') →
        Ledgered.eval env MemoryVault.store o.runLedgered [] (t, s) =
            ((.ok reports, ledger), t', s') →
          ∀ e ∈ ledger, s'.secrets.get? e.username = some e.seed := by
  intro claim
  obtain ⟨reports, left, store, h, second⟩ := sharedName_succeeds
  obtain ⟨ledger, hledger, -⟩ := sharedName.held_of_run prepared MemoryVault.store h
  have first : (Ledgered.eval prepared MemoryVault.store sharedName.runLedgered []
      (oneUserReplies ++ oneUserReplies, .start)).1.2.head?.map
        (fun e => (e.username, e.seed)) = some ("ann", ⟨"a"⟩) := by
    decide +kernel
  rw [hledger] at first
  cases ledger with
  | nil => cases first
  | cons e rest =>
    obtain ⟨hname, hseed⟩ : e.username = "ann" ∧ e.seed = ⟨"a"⟩ := by simpa using first
    have lost := claim _ _ _ _ _ _ _ _ h hledger e List.mem_cons_self
    rw [hname, hseed, second] at lost
    exact absurd lost (by decide)

end Orchestrator

end RealmSetup
