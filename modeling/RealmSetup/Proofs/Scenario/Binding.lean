import RealmSetup.Proofs.Scenario.Preparation

/-!
# Where a run stops and when it binds

A flow is made by requests that prepare its realm, and its report is moved on before the request that
binds it, so that the binding is the last call of a scenario and decides how it ends (`Orchestrator.Binds`).
Scenario by scenario this accounts for a whole run: for each of them up to the first that fails
there are the calls that were made for it, and a report if it succeeded (`Orchestrator.Accounts`).

`Orchestrator.run_stops_at_first_failure` says so for whatever the surroundings of a run answer, to
whatever they were asked before.
-/

namespace RealmSetup

namespace Orchestrator

variable {admin : AdminClient} {realm aliasName : String} {α : Type}

/-! ## Setting the entry point -/

/-- What the calls come to that set the entry point of a realm to an alias.  The entry point is set by the
last of them, after all others succeeded, and the ending is that of this call; or it is never set, and
the ending is an error. -/
inductive Binds (realm aliasName : String) : List (CallMade admin) → Option Error → Prop
  | last {before : List (CallMade admin)} {m : CallMade admin} (prepares : Preparing realm before)
    (succeeded : ∀ m ∈ before, m.error? = none) (sets : m.call.Sets realm aliasName) :
    Binds realm aliasName (before ++ [m]) m.error?
  | never {log : List (CallMade admin)} {e : Error} (prepares : Preparing realm log) :
    Binds realm aliasName log (some e)

theorem Binds.after {first log : List (CallMade admin)} {ending : Option Error}
    (prepares : Preparing realm first) (succeeded : ∀ m ∈ first, m.error? = none)
    (h : Binds realm aliasName log ending) : Binds realm aliasName (first ++ log) ending := by
  cases h with
  | @last before m hprepares hsucceeded sets =>
    rw [← List.append_assoc]
    refine .last (prepares.append hprepares) (fun m' hm' => ?_) sets
    exact (List.mem_append.1 hm').elim (succeeded m') (hsucceeded m')
  | never hprepares => exact .never (prepares.append hprepares)

theorem Binds.set {log : List (CallMade admin)} {ending : Option Error}
    (h : Binds realm aliasName log ending) (ok : ending = none) :
    ∃ m ∈ log, m.call.Sets realm aliasName ∧ m.error? = none := by
  cases h with
  | last _ _ sets => exact ⟨_, by simp, sets, ok⟩
  | never _ => cases ok

theorem tolerant_binds :
    Tolerant realm fun (log : List (CallMade admin)) (result : Except Error α) =>
      Binds realm aliasName log (errorOf result) where
  later prepares succeeded h := h.after prepares succeeded
  early prepares := .never prepares

end Orchestrator

namespace Reading

open Orchestrator StationAttempt

variable {admin : AdminClient} {realm : String}

/-- Every transcript of a construction that binds nothing is one of calls that prepare the realm. -/
theorem tells_asks {α : Type} {w : Builder.Work α} (h : Builder.Asks realm w) :
    (flows admin).Tells w fun (log : List (CallMade admin)) _ => Preparing realm log := by
  refine Tells.composed h fun β w step => ?_
  cases step with
  | ask op unbound =>
    exact tells_preparing (.flow realm op) (Program.interpret_call _ _) ⟨rfl, unbound⟩

/-- Adding nodes keeps the alias of the flow. -/
theorem tells_extendPending (report : BuildReport) (pending : List (String × Node)) :
    (flows admin).Tells (Builder.settled (Builder.extendPending realm report pending))
      fun (log : List (CallMade admin)) result =>
        Preparing realm log ∧ ∀ r, result = .ok r → r.flowAlias = report.flowAlias := by
  induction report, pending using Builder.extendPending.induct with
  | case1 report =>
    rw [Builder.settled_extendPending_nil]
    refine tells_pure ⟨preparing_nil, ?_⟩
    rintro _ ⟨⟩
    rfl
  | case2 report parent node rest ih =>
    rw [Builder.settled_extendPending_cons]
    exact (tells_asks (Builder.asks_addNode parent node)).after ih (tolerant_preparing.yielding _)

theorem tells_construct (plan : FlowPlan) :
    (flows admin).Tells (plan.construct realm) fun (log : List (CallMade admin)) result =>
      Preparing realm log ∧ ∀ r, result = .ok r → r.flowAlias = plan.aliasName := by
  have tolerant : Tolerant realm fun (log : List (CallMade admin)) (result : Except Error BuildReport) =>
      Preparing realm log ∧ ∀ r, result = .ok r → r.flowAlias = plan.aliasName :=
    tolerant_preparing.yielding _
  cases plan with
  | fresh tree =>
    exact (tells_asks (Builder.asks_createFlow _ _ _)).after
      (fun _ => tells_extendPending (.start tree.aliasName) _) tolerant
  | copyAndInject source aliasName marker nodes =>
    refine (tells_asks (Builder.asks_copyFlow _ _)).after (fun _ => ?_) tolerant
    exact (tells_asks (Builder.asks_findChild _ _ _)).after
      (fun _ => tells_extendPending (.start aliasName) _) tolerant

theorem tells_bindAsEntryPoint (aliasName : String) :
    (flows admin).Tells (Builder.bindAsEntryPoint realm aliasName)
      fun (log : List (CallMade admin)) result => Binds realm aliasName log (errorOf result) := by
  have asked : (flows admin).Tells (Builder.ask realm (.bindBrowserFlow aliasName))
      fun (log : List (CallMade admin)) result => Binds realm aliasName log (errorOf result) := by
    refine tells_call (.flow realm (.bindBrowserFlow aliasName)) (Program.interpret_call _ _) ?_
    intro events result takes
    have first : ∀ m ∈ ([] : List (CallMade admin)), m.error? = none := by simp
    exact .last preparing_nil first ⟨rfl, rfl⟩
  refine Tells.observe (asked.bind (fun _ log _ binds => tells_log ?_) fun e log binds => binds) _ _
  rw [List.append_nil]
  exact binds

theorem tells_bind (report : BuildReport) :
    (flows admin).Tells (Builder.bind realm report) fun (log : List (CallMade admin)) result =>
      Binds realm report.flowAlias log (errorOf result) ∧
        ∀ r, result = .ok r → r.flowAlias = report.flowAlias := by
  -- The report is moved on before anything is sent, so that nothing can fail after the binding.
  have advanced : (flows admin).Tells (Builder.advance report.state report.flowAlias .bound)
      fun (log : List (CallMade admin)) _ => Preparing realm log := tells_ofExcept preparing_nil
  refine advanced.after (fun next => ?_) (tolerant_binds.yielding _)
  refine (tells_bindAsEntryPoint report.flowAlias).bind (fun _ log _ binds => ?_) fun e log binds => ?_
  · refine tells_pure ⟨?_, ?_⟩
    · rw [List.append_nil]
      exact binds
    · rintro _ ⟨⟩
      rfl
  · exact ⟨binds, fun _ ok => nomatch ok⟩

theorem tells_apply (plan : FlowPlan) :
    (flows admin).Tells (plan.apply realm) fun (log : List (CallMade admin)) result =>
      Binds realm plan.aliasName log (errorOf result) ∧
        ∀ r, result = .ok r → r.flowAlias = plan.aliasName := by
  refine (tells_asks (Builder.asks_deleteFlow _)).after (fun _ => ?_) (tolerant_binds.yielding _)
  refine (tells_construct plan).bind (fun report log succeeded constructed => ?_) ?_
  · obtain ⟨prepares, same⟩ := constructed
    rw [← same report rfl]
    exact (tells_bind report).mono fun _ _ => (tolerant_binds.yielding _).later prepares succeeded
  · exact fun e log constructed => ⟨.never constructed.1, fun _ ok => nomatch ok⟩

end Reading

/-! ## Scenarios -/

namespace Orchestrator

variable {admin : AdminClient}

/-- What the calls made for a scenario come to: they set its entry point, and the report tells where. -/
structure ComesTo (s : Scenario) (log : List (CallMade admin)) (result : Except Error RealmReport) :
    Prop where
  binds : Binds s.realm s.flow.aliasName log (errorOf result)
  reports : ∀ report, result = .ok report →
    report.realm = s.realm ∧ report.entryPoint = s.flow.aliasName

theorem tolerant_comesTo {s : Scenario} :
    Tolerant s.realm fun (log : List (CallMade admin)) result => ComesTo s log result where
  later prepares succeeded h := ⟨h.binds.after prepares succeeded, h.reports⟩
  early prepares := ⟨.never prepares, fun _ ok => nomatch ok⟩

/-- What the calls made for some scenarios come to, which are given scenario by scenario: each has its
report, up to the first that fails, and no call is made for those behind it. -/
inductive Accounts :
    List Scenario → List (List (CallMade admin)) → Except Error (List RealmReport) → Prop
  | nil : Accounts [] [] (.ok [])
  | failed {s : Scenario} {rest : List Scenario} {log : List (CallMade admin)} {e : Error}
    (h : ComesTo s log (.error e)) : Accounts (s :: rest) [log] (.error e)
  | next {s : Scenario} {rest : List Scenario} {log : List (CallMade admin)}
    {logs : List (List (CallMade admin))} {report : RealmReport}
    {result : Except Error (List RealmReport)} (h : ComesTo s log (.ok report))
    (hrest : Accounts rest logs result) :
    Accounts (s :: rest) (log :: logs) ((report :: ·) <$> result)

/-- Where all scenarios succeeded there is one report for each, in their order, which tells the alias that
was set as the entry point of the realm. -/
theorem Accounts.reports {scenarios : List Scenario} {logs : List (List (CallMade admin))}
    {result : Except Error (List RealmReport)} (h : Accounts scenarios logs result) :
    ∀ reports, result = .ok reports →
      List.Forall₂ (fun (s : Scenario) (r : RealmReport) => r.realm = s.realm ∧
        ∃ m ∈ logs.flatten, m.call.Sets s.realm r.entryPoint ∧ m.error? = none) scenarios reports := by
  induction h with
  | nil =>
    rintro _ ⟨⟩
    exact .nil
  | failed h => rintro _ ⟨⟩
  | @next s rest log logs report result h hrest ih =>
    intro reports ok
    cases result with
    | error e => cases ok
    | ok others =>
      obtain rfl := Except.ok.inj ok
      obtain ⟨realm, entryPoint⟩ := h.reports report rfl
      obtain ⟨m, hm, sets, made⟩ := h.binds.set rfl
      have here : m ∈ (log :: logs).flatten := by simp [hm]
      refine .cons ⟨realm, m, here, entryPoint ▸ sets, made⟩ ((ih others rfl).imp ?_)
      rintro s' r ⟨same, m', hm', set⟩
      exact ⟨same, m', by simp [hm'], set⟩

/-- What the calls of a run come to that begins with some calls: if these were made and none failed, the
scenarios are accounted for by the others; otherwise there are no others. -/
def RunComesTo (beginning : List Call) (scenarios : List Scenario) (log : List (CallMade admin))
    (result : Except Error (List RealmReport)) : Prop :=
  (∃ opening logs, log = opening ++ logs.flatten ∧ opening.map CallMade.call = beginning ∧
    Accounts scenarios logs result) ∨
  ∃ e, result = .error e ∧ log.map CallMade.call <+: beginning ∧ ∃ m ∈ log, m.error? = some e

end Orchestrator

namespace Reading

open Orchestrator StationAttempt

variable {o : Orchestrator} {admin : AdminClient} {realm : String} {α : Type}

theorem tells_enrollUsers (builtIn : o.enroller = credentialEnroller o.admin) (ids : KeyMap String)
    (users : List ScenarioUser) :
    station.Tells (o.enrollUsers realm ids users)
      fun (log : List (CallMade o.admin)) _ => Preparing realm log := by
  induction users with
  | nil => exact tells_pure preparing_nil
  | cons user rest ih =>
    have kept (seed : Secret) : station.Tells (putSecret user.username seed)
        fun (log : List (CallMade o.admin)) _ => Preparing realm log :=
      tells_preparing (.putSecret user.username seed) (Program.interpret_self _) ⟨rfl, rfl⟩
    rw [enrollUsers]
    split
    · exact tells_throw preparing_nil
    · exact (tells_ofSite (tells_prepares (prepares_enrollUser builtIn _ _))).after
        (fun seed => (kept seed).after (fun _ => ih) tolerant_preparing) tolerant_preparing

theorem tells_provision (builtIn : o.enroller = credentialEnroller o.admin) (s : Scenario) :
    station.Tells (o.provision s)
      fun (log : List (CallMade o.admin)) result => ComesTo s log result := by
  refine Tells.observe ?_ _ _
  refine (tells_ofSite (tells_prepares (plainly_prepare s).prepares)).after (fun users => ?_)
    tolerant_comesTo
  refine (tells_enrollUsers builtIn _ _).after (fun _ => ?_) tolerant_comesTo
  have applied := tells_ofSite (tells_withFlows (@tells_apply o.admin s.realm s.flow))
  refine Tells.bind applied (fun build log _ h => ?_) fun e log h => ?_
  · obtain ⟨binds, same⟩ := h
    refine tells_pure ⟨?_, ?_⟩
    · rw [List.append_nil]
      exact binds
    · rintro _ ⟨⟩
      exact ⟨rfl, same build rfl⟩
  · exact ⟨h.1, fun _ ok => nomatch ok⟩

theorem tells_provisionAll (builtIn : o.enroller = credentialEnroller o.admin)
    (scenarios : List Scenario) :
    station.Tells (o.provisionAll scenarios) fun (log : List (CallMade o.admin)) result =>
      ∃ logs, log = logs.flatten ∧ Accounts scenarios logs result := by
  induction scenarios with
  | nil => exact tells_pure ⟨[], rfl, .nil⟩
  | cons s rest ih =>
    refine (tells_provision builtIn s).bind (fun report log _ first => ?_) fun e log first => ?_
    · refine ih.bind (fun reports more _ others => ?_) fun e more others => ?_
      · obtain ⟨logs, rfl, accounts⟩ := others
        exact tells_pure ⟨log :: logs, by simp, .next first accounts⟩
      · obtain ⟨logs, rfl, accounts⟩ := others
        exact ⟨log :: logs, rfl, .next first accounts⟩
    · exact ⟨[log], by simp, .failed first⟩

/-! ## Whole runs -/

/-- A run that begins with one call more. -/
theorem Tells.opened {beginning : List Call} {scenarios : List Scenario} (c : Call)
    {w : StationAttempt c.Result} {f : c.Result → StationAttempt (List RealmReport)}
    (performs : w = c.perform admin)
    (hf : ∀ a, station.Tells (f a) fun (log : List (CallMade admin)) result =>
      RunComesTo beginning scenarios log result) :
    station.Tells (w >>= f) fun (log : List (CallMade admin)) result =>
      RunComesTo (c :: beginning) scenarios log result := by
  have opened : station.Tells w fun (log : List (CallMade admin)) result =>
      ∃ m, log = [m] ∧ m.call = c ∧ m.error? = errorOf result := by
    subst performs
    exact tells_call c (Program.interpret_self _) fun events result takes => ⟨_, rfl, rfl, rfl⟩
  refine opened.bind (fun a first _ h => (hf a).mono fun more result later => ?_) fun e log h => ?_
  · obtain ⟨m, rfl, rfl, -⟩ := h
    rcases later with ⟨opening, logs, rfl, rfl, accounts⟩ | ⟨e, failed, before, m', hm', cause⟩
    · exact .inl ⟨m :: opening, logs, rfl, rfl, accounts⟩
    · exact .inr ⟨e, failed, (List.prefix_cons_inj _).2 before, m', List.mem_cons_of_mem m hm', cause⟩
  · obtain ⟨m, rfl, rfl, cause⟩ := h
    exact .inr ⟨e, rfl, by simp, m, List.mem_singleton_self m, cause⟩

/-- The calls that a run begins with: the store is cleared, and then the captured mail. -/
theorem tells_run (builtIn : o.enroller = credentialEnroller o.admin) :
    station.Tells o.run fun (log : List (CallMade o.admin)) result =>
      RunComesTo (.clearSecrets :: o.mail.toList.map .deleteMail) o.scenarios log result := by
  refine Tells.opened .clearSecrets rfl fun _ => ?_
  have provisioned := tells_provisionAll builtIn o.scenarios
  cases o.mail
  case' some mail => refine Tells.opened (.deleteMail mail) rfl fun _ => ?_
  -- With or without mail to delete, the scenarios come next.
  all_goals
    refine provisioned.bind (fun reports log _ h => ?_) fun e log h => ?_
    · obtain ⟨logs, rfl, accounts⟩ := h
      exact Tells.logged (tells_pure (.inl ⟨[], logs, by simp, rfl, accounts⟩))
    · obtain ⟨logs, rfl, accounts⟩ := h
      exact .inl ⟨[], logs, rfl, rfl, accounts⟩

end Reading

/-- Whatever a run is answered, it falls into calls, of which the first that fails is the last and its
error that of the run.  Scenario by scenario the entry point is set by the last call made for it; and if
the run succeeds, it reports on each scenario the alias that was set. -/
theorem Orchestrator.run_stops_at_first_failure (admin : AdminClient) (mail : Option MailCapture)
    (transport : MailTransport) (scenarios : List Scenario) (b : Behaviour Station) :
    let o : Orchestrator := ⟨admin, credentialEnroller admin, mail, transport, scenarios⟩
    let ran := Attempt.eval b.recorded o.run []
    ∃ log : List (CallMade admin), spoken ran.2 = CallMade.spokenAll log ∧ Stops log ran.1 ∧
      RunComesTo (.clearSecrets :: mail.toList.map .deleteMail) scenarios log ran.1 ∧
      ∀ reports, ran.1 = .ok reports →
        List.Forall₂ (fun (s : Scenario) (r : RealmReport) => r.realm = s.realm ∧
          ∃ m ∈ log, m.call.Sets s.realm r.entryPoint ∧ m.error? = none) scenarios reports := by
  intro o ran
  obtain ⟨events, recorded, takes⟩ := Program.takes_recorded b o.run.run []
  have all : ran.2 = events := recorded
  have read : o.run.run.interpret Reading.station.answer = o.run.run := Program.interpret_self _
  have told := Reading.tells_run (o := o) rfl events ran.1 (by rw [read]; exact takes)
  obtain ⟨log, spoken_events, stops, comes⟩ := told
  refine ⟨log, all ▸ spoken_events, stops, comes, fun reports ok => ?_⟩
  rcases comes with ⟨opening, logs, rfl, -, accounts⟩ | ⟨e, failed, -⟩
  · refine (accounts.reports reports ok).imp ?_
    rintro s r ⟨same, m, hm, set⟩
    exact ⟨same, m, List.mem_append_right opening hm, set⟩
  · rw [ok] at failed
    cases failed

end RealmSetup
