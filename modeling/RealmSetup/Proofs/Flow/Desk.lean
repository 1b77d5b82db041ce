import RealmSetup.Flow.MemoryServer
import RealmSetup.Proofs.Effect.Courses
import RealmSetup.Proofs.Flow.Changes
import RealmSetup.Scenario.Basic

/-!
# Constructions at the desk of a realm

A construction makes requests to one realm of a server and takes notes.  `FlowDesk.run` answers the
requests from the flows of that realm alone and passes over the notes; for every step of a builder
there is one equation that says how it ends and what it leaves behind.

`MemoryServer.run` answers from a whole server.  Since a construction keeps to its realm
(`Builder.Within`), both come to the same (`MemoryServer.run_eq`), so that what is proved at the desk
holds of the server.
-/

namespace RealmSetup

open Builder

/-! ## Ways of answering -/

/-- Answers the requests of a construction from the flows of a realm, whatever realm they name. -/
def FlowDesk.answer : Answering FlowSite FlowDesk
  | .inl c => fun d => d.serve c.op
  | .inr _ => fun d => ((), d)

/-- Answers the requests of a construction from the realms of a server. -/
def MemoryServer.answerSite : Answering FlowSite MemoryServer
  | .inl c => fun s => s.serve c
  | .inr _ => fun s => ((), s)

/-- The ending of a construction and the server it leaves. -/
def MemoryServer.run {α : Type} (w : Work α) (s : MemoryServer) : Except Error α × MemoryServer :=
  Attempt.eval answerSite w s

namespace FlowDesk

variable {α β : Type}

/-- The ending of a construction and the desk it leaves. -/
def run (w : Work α) (d : FlowDesk) : Except Error α × FlowDesk :=
  Attempt.eval answer w d

/-- Every desk that a construction passes through satisfies `Inv`, and if it succeeds, `Q` holds of its
value and of the last desk. -/
abbrev Along (Inv : FlowDesk → Prop) (Q : α → FlowDesk → Prop) (w : Work α) (d : FlowDesk) : Prop :=
  Attempt.Along answer Inv Q w d

/-! ## Basic steps -/

@[simp] theorem run_pure (a : α) (d : FlowDesk) : run (pure a) d = (.ok a, d) :=
  rfl

@[simp] theorem run_throw (e : Error) (d : FlowDesk) : run (throw e : Work α) d = (.error e, d) :=
  rfl

@[simp] theorem run_ofExcept (r : Except Error α) (d : FlowDesk) :
    run (Attempt.ofExcept r) d = (r, d) :=
  rfl

@[simp] theorem run_ask (realm : String) (op : Remote.Op) (d : FlowDesk) :
    run (ask realm op) d = d.serve op :=
  rfl

@[simp] theorem run_logged (level : LogLevel) (message : String) (fields : List (String × Json))
    (d : FlowDesk) : run (logged level message fields) d = (.ok (), d) :=
  rfl

@[simp] theorem run_observe (step : StepKind) (realm : String) (w : Work α) (d : FlowDesk) :
    run (observe step realm w) d = run w d :=
  Attempt.eval_observe answer (fun _ _ => rfl) step realm w d

theorem run_bind (w : Work α) (f : α → Work β) (d : FlowDesk) :
    run (w >>= f) d =
      match run w d with
      | (.ok a, d') => run (f a) d'
      | (.error e, d') => (.error e, d') := by
  unfold run
  rw [Attempt.eval_bind]
  cases Attempt.eval answer w d with
  | mk result d' => cases result <;> rfl

theorem run_bind_ok {w : Work α} {f : α → Work β} {d d' : FlowDesk} {a : α}
    (h : run w d = (.ok a, d')) : run (w >>= f) d = run (f a) d' :=
  Attempt.eval_bind_ok answer h

theorem run_bind_error {w : Work α} {f : α → Work β} {d d' : FlowDesk} {e : Error}
    (h : run w d = (.error e, d')) : run (w >>= f) d = (.error e, d') :=
  Attempt.eval_bind_error answer h

/-- A construction in parts succeeds when each part does. -/
theorem exists_of_run_bind {w : Work α} {f : α → Work β} {d d' : FlowDesk} {b : β}
    (h : run (w >>= f) d = (.ok b, d')) :
    ∃ a between, run w d = (.ok a, between) ∧ run (f a) between = (.ok b, d') := by
  rw [run_bind] at h
  cases first : run w d with
  | mk result between =>
    rw [first] at h
    cases result with
    | ok a => exact ⟨a, between, rfl, h⟩
    | error e => cases h

/-- A request that is answered, and what follows it. -/
theorem run_ask_ok {realm : String} {op : Remote.Op} {f : op.Result → Work β} {d d' : FlowDesk}
    {a : op.Result} (h : d.serve op = (.ok a, d')) : run (ask realm op >>= f) d = run (f a) d' :=
  run_bind_ok h

/-- A request that is refused. -/
theorem run_ask_error {realm : String} {op : Remote.Op} {f : op.Result → Work β} {d d' : FlowDesk}
    {e : Error} (h : d.serve op = (.error e, d')) : run (ask realm op >>= f) d = (.error e, d') :=
  run_bind_error h

/-! ## Steps of a builder -/

variable (d : FlowDesk) (realm : String)

@[simp] theorem run_createFlow (aliasName description : String) (kind : FlowKind) :
    run (Builder.createFlow realm aliasName description kind) d =
      (.ok (d.createFlow aliasName description kind).1,
        (d.createFlow aliasName description kind).2) := by
  rw [Builder.createFlow, run_observe]
  rfl

@[simp] theorem run_copyFlow (source dest : String) :
    run (Builder.copyFlow realm source dest) d =
      match d.copyFlow source dest with
      | .ok (creation, d') => (.ok creation, d')
      | .error e => (.error e, d) := by
  have served : d.serve (.copyFlow source dest) =
      match d.copyFlow source dest with
      | .ok (creation, d') => (.ok creation, d')
      | .error e => (.error e, d) := rfl
  rw [Builder.copyFlow, run_observe]
  cases copied : d.copyFlow source dest with
  | error e =>
    rw [copied] at served
    exact run_ask_error served
  | ok result =>
    rw [copied] at served
    exact run_ask_ok served

/-- The desk with a leaf added at the end of a flow. -/
def withLeaf (parent provider : String) : FlowDesk :=
  ⟨d.realm.addExecution parent
    ⟨identifier "exec" (d.issued + 1), .disabled, .provider provider, none⟩, d.issued + 1⟩

/-- The desk with a subflow added at the end of a flow. -/
def withSubflow (parent aliasName : String) (kind : FlowKind) : FlowDesk :=
  ⟨(d.realm.addFlow
      ⟨identifier "flow" (d.issued + 1), aliasName, "", kind, false, false, []⟩).addExecution parent
    ⟨identifier "exec" (d.issued + 2), .disabled, .flow aliasName, none⟩, d.issued + 2⟩

theorem hasFlow_withLeaf (parent provider a : String) :
    (d.withLeaf parent provider).realm.hasFlow a = d.realm.hasFlow a :=
  RealmFlows.hasFlow_addExecution _ _ _

theorem hasFlow_withSubflow (parent aliasName : String) (kind : FlowKind) (a : String) :
    (d.withSubflow parent aliasName kind).realm.hasFlow a =
      (d.realm.hasFlow a || aliasName = a) := by
  rw [withSubflow, RealmFlows.hasFlow_addExecution, RealmFlows.hasFlow_addFlow]

theorem serve_listExecutions {a : String} (there : d.realm.hasFlow a = true) :
    d.serve (.listExecutions a) = (.ok (d.realm.listing a), d) := by
  simp [serve, listExecutions, there]

theorem serve_listExecutions_error {a : String} (absent : ¬d.realm.hasFlow a = true) :
    d.serve (.listExecutions a) = (.error (notFound a), d) := by
  simp [serve, listExecutions, absent]

theorem serve_addExecution {parent : String} (provider : String)
    (there : d.realm.hasFlow parent = true) :
    d.serve (.addExecution parent provider) = (.ok (), d.withLeaf parent provider) := by
  simp [serve, addExecution, there, withLeaf]

theorem serve_addExecution_error {parent : String} (provider : String)
    (absent : ¬d.realm.hasFlow parent = true) :
    d.serve (.addExecution parent provider) =
      (.error (notFound parent), { d with issued := d.issued + 1 }) := by
  simp [serve, addExecution, absent]

theorem serve_addSubflow {parent aliasName : String} (kind : FlowKind)
    (free : ¬d.realm.hasFlow aliasName = true) (there : d.realm.hasFlow parent = true) :
    d.serve (.addSubflow parent aliasName kind) = (.ok (), d.withSubflow parent aliasName kind) := by
  simp [serve, addSubflow, free, there, withSubflow, settle]

theorem serve_addSubflow_error (parent aliasName : String) (kind : FlowKind)
    (refused : d.realm.hasFlow aliasName = true ∨ ¬d.realm.hasFlow parent = true) :
    ∃ e, d.serve (.addSubflow parent aliasName kind) = (.error e, d) := by
  by_cases taken : d.realm.hasFlow aliasName = true
  · simp [serve, addSubflow, taken, settle]
  · have absent := refused.resolve_left taken
    simp [serve, addSubflow, taken, absent, settle]

/-- The row that carries a key is looked for in the flow a leaf was added to. -/
theorem run_addLeaf {parent : String} (provider : String) (there : d.realm.hasFlow parent = true) :
    run (Builder.addLeaf realm parent provider) d =
      ((resolve parent ((d.withLeaf parent provider).realm.listing parent)
          (.provider provider)).map Execution.id, d.withLeaf parent provider) := by
  have listed := serve_listExecutions (d.withLeaf parent provider) (a := parent)
    (by rw [hasFlow_withLeaf, there])
  rw [Builder.addLeaf, run_observe]
  refine (run_ask_ok (d.serve_addExecution provider there)).trans ?_
  refine (run_ask_ok listed).trans ?_
  rw [run_bind, run_ofExcept]
  cases resolve parent ((d.withLeaf parent provider).realm.listing parent) (.provider provider) <;> rfl

theorem run_addLeaf_error {parent : String} (provider : String)
    (absent : ¬d.realm.hasFlow parent = true) :
    run (Builder.addLeaf realm parent provider) d =
      (.error (notFound parent), { d with issued := d.issued + 1 }) := by
  rw [Builder.addLeaf, run_observe]
  exact run_ask_error (d.serve_addExecution_error provider absent)

/-- The row that carries a key is looked for in the flow a subflow was added to. -/
theorem run_addSubflow {parent aliasName : String} (kind : FlowKind)
    (free : ¬d.realm.hasFlow aliasName = true) (there : d.realm.hasFlow parent = true) :
    run (Builder.addSubflow realm parent aliasName kind) d =
      ((resolve parent ((d.withSubflow parent aliasName kind).realm.listing parent)
          (.displayName aliasName)).map Execution.id, d.withSubflow parent aliasName kind) := by
  have listed := serve_listExecutions (d.withSubflow parent aliasName kind) (a := parent)
    (by rw [hasFlow_withSubflow, there, Bool.true_or])
  rw [Builder.addSubflow, run_observe]
  refine (run_ask_ok (d.serve_addSubflow kind free there)).trans ?_
  refine (run_ask_ok listed).trans ?_
  rw [run_bind, run_ofExcept]
  cases resolve parent ((d.withSubflow parent aliasName kind).realm.listing parent)
    (.displayName aliasName) <;> rfl

theorem run_addSubflow_error {parent aliasName : String} (kind : FlowKind)
    (refused : d.realm.hasFlow aliasName = true ∨ ¬d.realm.hasFlow parent = true) :
    ∃ e, run (Builder.addSubflow realm parent aliasName kind) d = (.error e, d) := by
  obtain ⟨e, served⟩ := d.serve_addSubflow_error _ _ kind refused
  refine ⟨e, ?_⟩
  rw [Builder.addSubflow, run_observe]
  exact run_ask_error served

theorem run_rowUnder {parent : String} (there : d.realm.hasFlow parent = true) {id : NodeId}
    {row : Execution} (found : (d.realm.listing parent).find? (fun e => e.id = id) = some row) :
    run (Builder.rowUnder realm parent id) d = (.ok row, d) := by
  refine (run_ask_ok (d.serve_listExecutions there)).trans ?_
  simp only [found]
  rfl

/-- The desk with an execution given a requirement. -/
def withRequirement (id : NodeId) (requirement : Requirement) : FlowDesk :=
  { d with realm := d.realm.changeExecution id.text fun x => { x with requirement } }

/-- The desk with an execution bound to a new configuration. -/
def withConfig (id : NodeId) (config : AuthenticatorConfig) : FlowDesk :=
  let configId := identifier "config" (d.issued + 1)
  let realm := d.realm.changeExecution id.text fun x => { x with configId := some configId }
  ⟨realm.keepConfig configId config, d.issued + 1⟩

/-- A requirement that a node has already is not sent. -/
theorem run_setRequirement {parent : String} (there : d.realm.hasFlow parent = true) {id : NodeId}
    {row : Execution} (found : (d.realm.listing parent).find? (fun e => e.id = id) = some row)
    (known : d.realm.hasExecution id.text = true) (requirement : Requirement) :
    run (Builder.setRequirement realm parent id requirement) d =
      (.ok (), if row.requirement = requirement then d else d.withRequirement id requirement) := by
  have same : row.id = id := by simpa using List.find?_some found
  rw [Builder.setRequirement, run_observe]
  refine (run_bind_ok (d.run_rowUnder realm there found)).trans ?_
  by_cases has : row.requirement = requirement
  · simp [has]
  · simp only [has, if_false]
    have served : d.serve (.updateExecution parent { row with requirement }) =
        (.ok (), d.withRequirement id requirement) := by
      subst same
      simp [serve, updateExecution, atExecution, known, settle, withRequirement]
    exact served

theorem run_attachConfig {id : NodeId} (known : d.realm.hasExecution id.text = true)
    (aliasName : String) (settings : KeyMap String) :
    run (Builder.attachConfig realm id aliasName settings) d =
      (.ok (), d.withConfig id ⟨none, aliasName, settings⟩) := by
  have served : d.serve (.createConfig id ⟨none, aliasName, settings⟩) =
      (.ok (), d.withConfig id ⟨none, aliasName, settings⟩) := by
    simp [serve, createConfig, known, settle, withConfig, RealmFlows.keepConfig]
  rw [Builder.attachConfig, run_observe]
  exact served

theorem run_findChild {parent : String} (there : d.realm.hasFlow parent = true)
    (description : String) (accept : Execution → Bool) :
    run (Builder.findChild realm parent description accept) d =
      (findDirectChild parent (d.realm.listing parent) description accept, d) :=
  run_ask_ok (d.serve_listExecutions there)

theorem run_findChild_error {parent : String} (absent : ¬d.realm.hasFlow parent = true)
    (description : String) (accept : Execution → Bool) :
    run (Builder.findChild realm parent description accept) d = (.error (notFound parent), d) :=
  run_ask_error (d.serve_listExecutions_error absent)

/-- Only a flow in the listing of the realm is deleted. -/
theorem run_deleteFlow (aliasName : String) :
    run (Builder.deleteFlow realm aliasName) d =
      match d.realm.topLevelFlows.find? fun f => f.aliasName = aliasName with
      | none => (.ok false, d)
      | some f =>
        match d.deleteFlow f.id with
        | .ok d' => (.ok true, d')
        | .error e => (.error e, d) := by
  have listed : d.serve .listFlows = (.ok (d.realm.topLevelFlows.map FlowRecord.summary), d) := rfl
  rw [Builder.deleteFlow, run_observe]
  refine (run_ask_ok listed).trans ?_
  rw [List.find?_map]
  have by_alias : ((fun f : FlowSummary => decide (f.aliasName = aliasName)) ∘ FlowRecord.summary) =
      fun f => decide (f.aliasName = aliasName) := rfl
  rw [by_alias]
  cases d.realm.topLevelFlows.find? fun f => f.aliasName = aliasName with
  | none => rfl
  | some f =>
    have served : d.serve (.deleteFlow f.id) = d.settle (d.deleteFlow f.id) := rfl
    simp only [Option.map_some]
    cases deleted : d.deleteFlow f.id with
    | ok d' =>
      rw [deleted] at served
      exact run_ask_ok served
    | error e =>
      rw [deleted] at served
      exact run_ask_error served

/-- The desk with a flow bound as the entry point. -/
def withEntryPoint (aliasName : String) : FlowDesk :=
  { d with realm := { d.realm with entryPoint := some aliasName } }

theorem run_bindAsEntryPoint {aliasName : String} (there : d.realm.hasFlow aliasName = true) :
    run (Builder.bindAsEntryPoint realm aliasName) d = (.ok (), d.withEntryPoint aliasName) := by
  have served : d.serve (.bindBrowserFlow aliasName) = (.ok (), d.withEntryPoint aliasName) := by
    simp [serve, bindBrowserFlow, there, settle, withEntryPoint]
  rw [Builder.bindAsEntryPoint, run_observe]
  exact run_ask_ok served

theorem run_bindAsEntryPoint_error {aliasName : String}
    (absent : ¬d.realm.hasFlow aliasName = true) :
    run (Builder.bindAsEntryPoint realm aliasName) d = (.error (notFound aliasName), d) := by
  have served : d.serve (.bindBrowserFlow aliasName) = (.error (notFound aliasName), d) := by
    simp [serve, bindBrowserFlow, absent, settle]
  rw [Builder.bindAsEntryPoint, run_observe]
  exact run_ask_error served

end FlowDesk

end RealmSetup
