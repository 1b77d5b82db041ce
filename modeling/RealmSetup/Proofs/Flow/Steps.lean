import RealmSetup.Proofs.Flow.Nesting
import RealmSetup.Proofs.Flow.Server

/-!
# What the steps of an extension come to

A node is created by several requests: the creation itself, listings to find its identifier, a change of
its requirement and the creation of its configuration.  Whatever the realm, these either fail or leave
the realm with one more execution, which has its requirement and configuration at once
(`run_addNode`).  `FlowDesk.Plants` says the same of nodes with all below them, and
`run_extend_iff` that an extension succeeds exactly where it holds.
-/

namespace RealmSetup

open Builder

/-! ## Rows and executions -/

namespace RealmFlows

variable {r : RealmFlows} {a : String}

/-- Every row of a listing is that of an execution of a flow below. -/
theorem exists_of_mem_listing {e : Execution} (h : e ∈ r.listing a) :
    ∃ b f, r.Reaches a b ∧ r.flow? b = some f ∧ ∃ x ∈ f.executions, ∃ level index,
      e = r.row level index x := by
  have rows : ∀ n a level, e ∈ r.rowsFrom n a level →
      ∃ b f, r.Reaches a b ∧ r.flow? b = some f ∧ ∃ x ∈ f.executions, ∃ level index,
        e = r.row level index x := by
    intro n
    induction n with
    | zero => exact fun a level h => absurd h List.not_mem_nil
    | succ n ih =>
      intro a level h
      cases found : r.flow? a with
      | none =>
        rw [rowsFrom_of_none found] at h
        exact absurd h List.not_mem_nil
      | some f =>
        rw [rowsFrom_succ found] at h
        obtain ⟨p, hp, h⟩ := List.mem_flatMap.1 h
        have hx := List.fst_mem_of_mem_zipIdx hp
        rcases List.mem_cons.1 h with rfl | h
        · exact ⟨a, f, .refl, found, p.1, hx, level, p.2, rfl⟩
        · cases called : p.1.nested? with
          | none =>
            rw [called] at h
            exact absurd h List.not_mem_nil
          | some c =>
            rw [called] at h
            obtain ⟨b, g, reached, there, y, hy, same⟩ := ih c (level + 1) h
            exact ⟨b, g, .head (calls_of_mem found hx called) reached, there, y, hy, same⟩
  exact rows _ a 0 h

/-- The subflows in a listing are come to from its flow. -/
theorem reaches_of_mem_listing {e : Execution} (h : e ∈ r.listing a) (isFlow : e.isFlow = true) :
    r.Reaches a e.displayName := by
  obtain ⟨b, f, reached, found, x, hx, level, index, rfl⟩ := exists_of_mem_listing h
  cases called : x.nested? with
  | none => simp [row, called] at isFlow
  | some c =>
    have name : (r.row level index x).displayName = c := by
      unfold FlowExecution.nested? at called
      simp only [row]
      cases target : x.target with
      | provider id => simp [target] at called
      | flow aliasName => simpa [target] using called
    rw [name]
    exact reached.tail (calls_of_mem found hx called)

/-- Every execution of a flow has a row directly in it. -/
theorem exists_row_mem_listing {f : FlowRecord} {x : FlowExecution} (found : r.flow? a = some f)
    (hx : x ∈ f.executions) : ∃ index, r.row 0 index x ∈ r.listing a := by
  obtain ⟨index, there, rfl⟩ := List.getElem_of_mem hx
  refine ⟨index, ?_⟩
  rw [listing, depthBound, rowsFrom_succ found]
  refine List.mem_flatMap.2 ⟨(f.executions[index], index), ?_, List.mem_cons_self⟩
  exact List.mem_zipIdx_iff_getElem?.2 (List.getElem?_eq_getElem there)

/-- Changing the execution that was just added is adding it changed. -/
theorem changeExecution_addExecution {x : FlowExecution} (fresh : x.id ∉ r.executionIds)
    (p : String) (change : FlowExecution → FlowExecution) :
    (r.addExecution p x).changeExecution x.id change = r.addExecution p (change x) := by
  obtain ⟨flows, configs, entryPoint⟩ := r
  simp only [changeExecution, changeAround, addExecution, RealmFlows.mk.injEq, and_true]
  have other : ∀ f ∈ flows, ∀ y ∈ f.executions, ¬decide (y.id = x.id) = true := by
    intro f hf y hy same
    exact fresh (List.mem_map.2 ⟨y, mem_executions.2 ⟨f, hf, hy⟩, of_decide_eq_true same⟩)
  clear fresh
  induction flows with
  | nil => rfl
  | cons f rest ih =>
    have here := other f List.mem_cons_self
    by_cases hf : f.aliasName = p
    · have holds : (f.executions ++ [x]).any (fun y => decide (y.id = x.id)) = true := by simp
      simp only [changeFirst, hf, decide_true, if_true, holds,
        changeFirst_append_of_forall_not here]
    · have holds_not : ¬(f.executions.any fun y => decide (y.id = x.id)) = true := by
        simpa [List.any_eq_true] using here
      simp only [changeFirst, hf, decide_false, Bool.false_eq_true, if_false, holds_not]
      rw [ih fun g hg => other g (List.mem_cons_of_mem f hg)]

end RealmFlows

/-! ## Resolving -/

section Resolve

variable {parent : String} {rows : List Execution} {key : MatchKey} {e : Execution}

theorem resolve_eq_ok_iff :
    resolve parent rows key = .ok e ↔
      rows.filter (fun e => e.isDirectChild && key.accepts e) = [e] := by
  unfold resolve
  generalize rows.filter (fun e => e.isDirectChild && key.accepts e) = found
  match found with
  | [] => simp
  | [_] => simp
  | _ :: _ :: _ => simp

theorem findDirectChild_eq_ok_iff {description : String} {accept : Execution → Bool} :
    findDirectChild parent rows description accept = .ok e ↔
      rows.find? (fun e => e.isDirectChild && accept e) = some e := by
  unfold findDirectChild
  cases rows.find? (fun e => e.isDirectChild && accept e) with
  | none => simp
  | some _ => simp

/-- The row that is found is any that carries the key. -/
theorem eq_of_resolve (h : resolve parent rows key = .ok e) {e' : Execution} (he : e' ∈ rows)
    (direct : e'.isDirectChild = true) (accepted : key.accepts e' = true) : e' = e := by
  have found : e' ∈ rows.filter (fun e => e.isDirectChild && key.accepts e) :=
    List.mem_filter.2 ⟨he, by rw [direct, accepted, Bool.and_self]⟩
  rw [resolve_eq_ok_iff.1 h] at found
  exact List.mem_singleton.1 found

end Resolve

namespace FlowDesk

/-- Every construction keeps identifiers apart. -/
theorem Numbered.run {α : Type} {d : FlowDesk} (h : d.Numbered) (w : Work α) :
    (d.run w).2.Numbered := by
  refine Program.eval_keeps answer (fun c d hd => ?_) w.run h
  cases c with
  | inl c => exact hd.serve c.op
  | inr note => exact hd

end FlowDesk

/-! ## One node -/

namespace Node

/-- What a new node is looked for by. -/
def key : Node → MatchKey
  | .leaf provider _ _ => .provider provider
  | .subflow aliasName _ _ _ => .displayName aliasName

/-- What the execution of a node calls for. -/
def target : Node → Target
  | .leaf provider _ _ => .provider provider
  | .subflow aliasName _ _ _ => .flow aliasName

/-- The configuration of a leaf, if it has one. -/
def spec : Node → Option ConfigSpec
  | .leaf _ _ config => config
  | .subflow _ _ _ _ => none

/-- How far the construction of a node comes. -/
def finalState (n : Node) : BuildState :=
  match n.spec with
  | none => .created
  | some _ => .configured

/-- How many identifiers the creation of a node takes, apart from its configuration. -/
def numbers : Node → Nat
  | .leaf _ _ _ => 1
  | .subflow _ _ _ _ => 2

/-- The alias of a subflow names no flow yet. -/
def Free (r : RealmFlows) : Node → Prop
  | .leaf _ _ _ => True
  | .subflow aliasName _ _ _ => ¬r.hasFlow aliasName = true

end Node

namespace FlowDesk

variable (d : FlowDesk) (parent : String) (n : Node)

/-- The flows before the execution of a node is added: with the flow of a subflow. -/
def ground : RealmFlows :=
  match n with
  | .leaf _ _ _ => d.realm
  | .subflow aliasName kind _ _ =>
    d.realm.addFlow ⟨identifier "flow" (d.issued + 1), aliasName, "", kind, false, false, []⟩

/-- The identifier of the execution of a new node. -/
def nextId : NodeId := ⟨identifier "exec" (d.issued + n.numbers)⟩

/-- The execution of a node as it is created. -/
def sprout : FlowExecution := ⟨(d.nextId n).text, .disabled, n.target, none⟩

/-- The identifier of the configuration of a new node. -/
def nextConfigId : String := identifier "config" (d.issued + n.numbers + 1)

/-- The execution of a node when it has its requirement and configuration. -/
def grown : FlowExecution :=
  ⟨(d.nextId n).text, n.requirement, n.target, n.spec.map fun _ => d.nextConfigId n⟩

/-- The desk when a node was just created. -/
def added : FlowDesk := ⟨(d.ground n).addExecution parent (d.sprout n), d.issued + n.numbers⟩

/-- The desk when a node has its requirement and configuration; nothing below it is created yet. -/
def planted : FlowDesk :=
  match n.spec with
  | none => ⟨(d.ground n).addExecution parent (d.grown n), d.issued + n.numbers⟩
  | some spec =>
    ⟨((d.ground n).addExecution parent (d.grown n)).keepConfig (d.nextConfigId n)
      ⟨none, spec.aliasName, spec.settings⟩, d.issued + n.numbers + 1⟩

/-- What is reported of a node that was created. -/
def built : BuiltNode := ⟨d.nextId n, parent, n.label, n.requirement, n.finalState⟩

/-- A node can be created in a flow: the flow is there, the alias of a subflow is free, and only the new
node is found when it is looked for. -/
structure Takes : Prop where
  /-- There is such a flow. -/
  there : d.realm.hasFlow parent = true
  /-- The alias of a subflow is free. -/
  free : n.Free d.realm
  /-- Only the new node is found. -/
  alone : ∃ row, resolve parent ((d.added parent n).realm.listing parent) n.key = .ok row

variable {d} {parent} {n}

theorem executions_ground : (d.ground n).executions = d.realm.executions := by
  cases n with
  | leaf => rfl
  | subflow => rw [ground, RealmFlows.executions_addFlow, List.append_nil]

theorem hasFlow_ground {a : String} (h : d.realm.hasFlow a = true) :
    (d.ground n).hasFlow a = true := by
  cases n with
  | leaf => exact h
  | subflow => rw [ground, RealmFlows.hasFlow_addFlow, h, Bool.true_or]

/-- The identifier of the next execution is in no flow of the realm. -/
theorem Numbered.nextId_fresh (h : d.Numbered) (n : Node) :
    (d.nextId n).text ∉ (d.ground n).executionIds := by
  rw [RealmFlows.executionIds, executions_ground]
  refine h.fresh_execution ?_
  cases n <;> simp [Node.numbers]

/-- The new node has a row directly in its parent. -/
theorem exists_row_mem_added (there : d.realm.hasFlow parent = true) (n : Node) :
    ∃ index, (d.added parent n).realm.row 0 index (d.sprout n) ∈
      (d.added parent n).realm.listing parent := by
  obtain ⟨f, found⟩ := RealmFlows.hasFlow_iff.1 (hasFlow_ground (n := n) there)
  have grown : (d.added parent n).realm.flow? parent =
      some { f with executions := f.executions ++ [d.sprout n] } := by
    rw [added, RealmFlows.flow?_addExecution, if_pos rfl, found, Option.map_some]
  exact RealmFlows.exists_row_mem_listing grown
    (List.mem_append_right _ (List.mem_singleton_self _))

/-- What is found for a new node is the new node. -/
theorem id_of_resolve_added (there : d.realm.hasFlow parent = true) {row : Execution}
    (h : resolve parent ((d.added parent n).realm.listing parent) n.key = .ok row) :
    row.id = d.nextId n := by
  obtain ⟨index, mem⟩ := exists_row_mem_added there n
  have accepted : n.key.accepts ((d.added parent n).realm.row 0 index (d.sprout n)) = true := by
    cases n <;>
      simp [Node.key, MatchKey.accepts, RealmFlows.row, sprout, Node.target, FlowExecution.nested?]
  exact (eq_of_resolve h mem rfl accepted) ▸ rfl

/-- Every row with the identifier of a new node is that of its execution. -/
theorem requirement_of_id (h : d.Numbered) (there : d.realm.hasFlow parent = true) {row : Execution}
    (mem : row ∈ (d.added parent n).realm.listing parent) (hid : row.id = d.nextId n) :
    row.requirement = .disabled := by
  obtain ⟨b, f, -, found, x, hxf, level, index, rfl⟩ := RealmFlows.exists_of_mem_listing mem
  have hx : x ∈ (d.added parent n).realm.executions :=
    RealmFlows.mem_executions.2 ⟨f, (RealmFlows.flow?_eq_some found).1, hxf⟩
  have grown := RealmFlows.executions_addExecution_perm parent (d.sprout n)
    (hasFlow_ground (n := n) there)
  rcases List.mem_append.1 (grown.subset hx) with old | new
  · have used : (d.nextId n).text ∈ (d.ground n).executionIds :=
      List.mem_map.2 ⟨x, old, congrArg NodeId.text hid⟩
    exact absurd used (h.nextId_fresh n)
  · rw [List.mem_singleton.1 new]
    rfl

/-! ## The requests for a node -/

variable (realm : String)

/-- The requests for a node up to its identifier. -/
def creation (realm parent : String) : Node → Work NodeId
  | .leaf provider _ _ => Builder.addLeaf realm parent provider
  | .subflow aliasName kind _ _ => Builder.addSubflow realm parent aliasName kind

theorem run_creation (there : d.realm.hasFlow parent = true) (free : n.Free d.realm) :
    run (creation realm parent n) d =
      ((resolve parent ((d.added parent n).realm.listing parent) n.key).map Execution.id,
        d.added parent n) := by
  cases n with
  | leaf provider requirement config => exact d.run_addLeaf realm provider there
  | subflow aliasName kind requirement nodes => exact d.run_addSubflow realm kind free there

theorem run_creation_ok (takes : d.Takes parent n) :
    run (creation realm parent n) d = (.ok (d.nextId n), d.added parent n) := by
  obtain ⟨row, found⟩ := takes.alone
  rw [run_creation realm takes.there takes.free, found, Except.map,
    id_of_resolve_added takes.there found]

theorem run_creation_error (refused : ¬d.Takes parent n) :
    ∃ e d', run (creation realm parent n) d = (.error e, d') := by
  by_cases there : d.realm.hasFlow parent = true
  · by_cases free : n.Free d.realm
    · cases found : resolve parent ((d.added parent n).realm.listing parent) n.key with
      | ok row => exact absurd ⟨there, free, row, found⟩ refused
      | error e =>
        rw [run_creation realm there free, found]
        exact ⟨e, _, rfl⟩
    · cases n with
      | leaf => exact absurd trivial free
      | subflow aliasName kind requirement nodes =>
        obtain ⟨e, ended⟩ := d.run_addSubflow_error realm kind (.inl (not_not.1 free))
        exact ⟨e, d, ended⟩
  · cases n with
    | leaf provider requirement config => exact ⟨_, _, d.run_addLeaf_error realm provider there⟩
    | subflow aliasName kind requirement nodes =>
      obtain ⟨e, ended⟩ := d.run_addSubflow_error realm kind (.inr there)
      exact ⟨e, d, ended⟩

/-- The desk when a new node has its requirement but not its configuration. -/
def required (d : FlowDesk) (parent : String) (n : Node) : FlowDesk :=
  ⟨(d.ground n).addExecution parent { d.sprout n with requirement := n.requirement },
    d.issued + n.numbers⟩

/-- A new node is given its requirement, unless it is to be disabled, as it is already. -/
theorem run_setRequirement_added (h : d.Numbered) (there : d.realm.hasFlow parent = true) :
    run (setRequirement realm parent (d.nextId n) n.requirement) (d.added parent n) =
      (.ok (), d.required parent n) := by
  obtain ⟨index, mem⟩ := exists_row_mem_added there n
  have some_row : ((d.added parent n).realm.listing parent).find?
      (fun e => e.id = d.nextId n) ≠ none := by
    rw [Ne, List.find?_eq_none]
    exact fun all => all _ mem (decide_eq_true rfl)
  obtain ⟨row, found⟩ := Option.ne_none_iff_exists'.1 some_row
  have disabled : row.requirement = .disabled :=
    requirement_of_id h there (List.mem_of_find?_eq_some found) (by simpa using List.find?_some found)
  have there' : (d.added parent n).realm.hasFlow parent = true := by
    rw [added, RealmFlows.hasFlow_addExecution]
    exact hasFlow_ground there
  have known : (d.added parent n).realm.hasExecution (d.nextId n).text = true := by
    obtain ⟨b, f, -, listed, x, hx, level, i, same⟩ := RealmFlows.exists_of_mem_listing mem
    rw [RealmFlows.hasExecution_iff]
    have hid : (⟨x.id⟩ : NodeId) = d.nextId n := (congrArg Execution.id same).symm
    exact List.mem_map.2 ⟨x, RealmFlows.mem_executions.2 ⟨f, (RealmFlows.flow?_eq_some listed).1, hx⟩,
      congrArg NodeId.text hid⟩
  rw [run_setRequirement _ realm there' found known, disabled]
  congr 1
  split
  · next has => rw [required, ← has]; rfl
  · have changed := RealmFlows.changeExecution_addExecution (x := d.sprout n) (h.nextId_fresh n) parent
      fun x => { x with requirement := n.requirement }
    exact congrArg (fun r => FlowDesk.mk r (d.issued + n.numbers)) changed

/-- A configuration is bound to a new leaf when it has its requirement. -/
theorem run_attachConfig_required (h : d.Numbered) (there : d.realm.hasFlow parent = true)
    {spec : ConfigSpec} (hspec : n.spec = some spec) :
    run (attachConfig realm (d.nextId n) spec.aliasName spec.settings) (d.required parent n) =
      (.ok (), d.planted parent n) := by
  have known : (d.required parent n).realm.hasExecution (d.nextId n).text = true := by
    have grown := RealmFlows.executions_addExecution_perm parent
      { d.sprout n with requirement := n.requirement } (hasFlow_ground (n := n) there)
    rw [RealmFlows.hasExecution_iff]
    exact List.mem_map.2 ⟨_, grown.symm.subset (List.mem_append_right _ (List.mem_singleton_self _)), rfl⟩
  have changed := RealmFlows.changeExecution_addExecution
    (x := { d.sprout n with requirement := n.requirement }) (h.nextId_fresh n) parent
    fun x => { x with configId := some (d.nextConfigId n) }
  rw [run_attachConfig _ realm known, planted, hspec, grown, hspec]
  exact congrArg (fun r => (Except.ok (), FlowDesk.mk
    (r.keepConfig (d.nextConfigId n) ⟨none, spec.aliasName, spec.settings⟩) _)) changed

/-- Where a node can be created, it is, with its requirement and configuration. -/
theorem run_addNode_ok (h : d.Numbered) (takes : d.Takes parent n) :
    run (addNode realm parent n) d = (.ok (d.built parent n), d.planted parent n) := by
  have created := run_creation_ok realm takes
  have required := run_setRequirement_added realm h takes.there (n := n)
  cases n with
  | leaf provider requirement config =>
    refine (run_bind_ok created).trans ?_
    refine (run_bind_ok (a := .created) rfl).trans ?_
    refine (run_bind_ok required).trans ?_
    cases config with
    | none => rfl
    | some spec =>
      refine (run_bind_ok (run_attachConfig_required realm h takes.there rfl)).trans ?_
      rfl
  | subflow aliasName kind requirement nodes =>
    refine (run_bind_ok created).trans ?_
    refine (run_bind_ok (a := .created) rfl).trans ?_
    refine (run_bind_ok required).trans ?_
    rfl

theorem run_addNode_error (refused : ¬d.Takes parent n) :
    ∃ e d', run (addNode realm parent n) d = (.error e, d') := by
  obtain ⟨e, d', ended⟩ := run_creation_error realm refused
  refine ⟨e, d', ?_⟩
  cases n with
  | leaf provider requirement config => exact run_bind_error ended
  | subflow aliasName kind requirement nodes => exact run_bind_error ended

end FlowDesk

end RealmSetup
