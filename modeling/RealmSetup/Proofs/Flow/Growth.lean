import RealmSetup.Proofs.Flow.Planting

/-!
# What an extension leaves alone

An extension, whether it succeeds, fails or is broken off, only adds to flows that it may and only
creates flows with names that it may: `FlowDesk.Grows` lists the changes it can make, and every desk it
passes through is come to by such changes (`along_extend`).  All other flows are kept as they are
(`Grows.kept`), and so are the configurations there were (`Grows.configs`).
-/

namespace RealmSetup

open Builder

namespace FlowDesk

variable {α β : Type} {Inv : FlowDesk → Prop} {d₀ d d' : FlowDesk} {own : String → Prop}
  {parent : String} {n : Node}

/-! ## The courses of basic steps -/

theorem along_ask {realm : String} {op : Remote.Op} {Q : op.Result → FlowDesk → Prop}
    (before : Inv d) (after : Inv (d.serve op).2)
    (h : ∀ a, (d.serve op).1 = .ok a → Q a (d.serve op).2) : Along Inv Q (ask realm op) d :=
  ⟨before, after, h⟩

/-- A request for a listing changes nothing. -/
theorem along_listExecutions {realm a : String} {Q : List Execution → FlowDesk → Prop}
    (here : Inv d) (h : ∀ rows, d.listExecutions a = .ok rows → Q rows d) :
    Along Inv Q (ask realm (.listExecutions a)) d :=
  along_ask here here h

theorem along_observe {Q : α → FlowDesk → Prop} {step : StepKind} {realm : String} {w : Work α}
    (h : Along Inv Q w d) : Along Inv Q (observe step realm w) d :=
  Attempt.along_observe (fun _ _ _ hs hp => ⟨hs, hs, hp⟩) h

theorem along_logged {level : LogLevel} {message : String} {fields : List (String × Json)}
    {Q : Unit → FlowDesk → Prop} (here : Inv d) (h : Q () d) :
    Along Inv Q (logged level message fields) d := by
  refine ⟨here, here, ?_⟩
  rintro _ ⟨⟩
  exact h

/-! ## Growing -/

/-- A desk is come to by changes that an extension makes: the flows that are added to or changed and the
names of new flows are its own. -/
inductive Grows (own : String → Prop) (d : FlowDesk) : FlowDesk → Prop
  /-- Nothing was changed yet. -/
  | refl : Grows own d d
  /-- A number was given out for nothing. -/
  | spend {d' : FlowDesk} (grows : Grows own d d') :
      Grows own d { d' with issued := d'.issued + 1 }
  /-- A leaf was added to a flow. -/
  | leaf {d' : FlowDesk} (grows : Grows own d d') {q : String} (mine : own q)
      (there : d'.realm.hasFlow q = true) (provider : String) : Grows own d (d'.withLeaf q provider)
  /-- A subflow was added to a flow. -/
  | subflow {d' : FlowDesk} (grows : Grows own d d') {q b : String} (mine : own q)
      (there : d'.realm.hasFlow q = true) (named : own b) (free : ¬d'.realm.hasFlow b = true)
      (kind : FlowKind) : Grows own d (d'.withSubflow q b kind)
  /-- An execution was given a requirement. -/
  | requirement {d' : FlowDesk} (grows : Grows own d d') {id : NodeId}
      (mine : ∀ f ∈ d'.realm.flows, ∀ x ∈ f.executions, x.id = id.text → own f.aliasName)
      (requirement : Requirement) : Grows own d (d'.withRequirement id requirement)
  /-- An execution was bound to a configuration. -/
  | config {d' : FlowDesk} (grows : Grows own d d') {id : NodeId}
      (mine : ∀ f ∈ d'.realm.flows, ∀ x ∈ f.executions, x.id = id.text → own f.aliasName)
      (config : AuthenticatorConfig) : Grows own d (d'.withConfig id config)

theorem Grows.hasFlow (h : d.Grows own d') {a : String} (there : d.realm.hasFlow a = true) :
    d'.realm.hasFlow a = true := by
  induction h with
  | refl => exact there
  | spend _ ih => exact ih
  | leaf _ _ _ _ ih => rwa [hasFlow_withLeaf]
  | subflow _ _ _ _ _ _ ih => rw [hasFlow_withSubflow, ih, Bool.true_or]
  | requirement _ _ _ ih => rwa [withRequirement, RealmFlows.hasFlow_changeExecution]
  | config _ _ _ ih =>
    refine (RealmFlows.hasFlow_changeExecution _ _ _).trans ih

/-- Only the flow an execution was added to has it. -/
theorem holder_of_addExecution {r : RealmFlows} {x y : FlowExecution} (fresh : x.id ∉ r.executionIds)
    {f : FlowRecord} (hf : f ∈ (r.addExecution parent x).flows) (hy : y ∈ f.executions)
    (same : y.id = x.id) : f.aliasName = parent := by
  have old : ∀ g ∈ r.flows, y ∉ g.executions := by
    intro g hg hy
    exact fresh (same ▸ List.mem_map_of_mem (RealmFlows.mem_executions.2 ⟨g, hg, hy⟩))
  clear fresh
  obtain ⟨flows, configs, entryPoint⟩ := r
  simp only [RealmFlows.addExecution] at hf
  induction flows with
  | nil => exact absurd hf List.not_mem_nil
  | cons g rest ih =>
    by_cases hg : g.aliasName = parent
    · simp only [changeFirst, hg, decide_true, if_true] at hf
      rcases List.mem_cons.1 hf with rfl | hf
      · rfl
      · exact absurd hy (old f (List.mem_cons_of_mem g hf))
    · simp only [changeFirst, hg, decide_false, Bool.false_eq_true, if_false] at hf
      rcases List.mem_cons.1 hf with rfl | hf
      · exact absurd hy (old f List.mem_cons_self)
      · exact ih hf fun k hk => old k (List.mem_cons_of_mem g hk)

variable (realm : String)

/-- The course of creating a node. -/
theorem along_creation (grows : d₀.Grows own d) (mine : own parent)
    (named : ∀ a ∈ n.ownAlias, ¬d₀.realm.hasFlow a = true → own a) :
    Along (d₀.Grows own) (fun _ _ => True) (creation realm parent n) d := by
  cases n with
  | leaf provider requirement config =>
    have after : d₀.Grows own (d.serve (.addExecution parent provider)).2 := by
      by_cases there : d.realm.hasFlow parent = true
      · rw [d.serve_addExecution provider there]
        exact grows.leaf mine there provider
      · rw [d.serve_addExecution_error provider there]
        exact grows.spend
    refine along_observe (Attempt.along_bind (along_ask grows after fun _ _ => ?_))
    refine Attempt.along_bind (along_listExecutions after fun rows _ => ?_)
    exact Attempt.along_bind (Attempt.along_ofExcept after fun row _ => Attempt.along_pure after trivial)
  | subflow aliasName kind requirement nodes =>
    have after : d₀.Grows own (d.serve (.addSubflow parent aliasName kind)).2 := by
      by_cases free : d.realm.hasFlow aliasName = true
      · obtain ⟨e, served⟩ := d.serve_addSubflow_error parent aliasName kind (.inl free)
        rw [served]
        exact grows
      by_cases there : d.realm.hasFlow parent = true
      · have new : own aliasName :=
          named aliasName (List.mem_singleton_self _) fun before => free (grows.hasFlow before)
        rw [d.serve_addSubflow kind free there]
        exact grows.subflow mine there new free kind
      · obtain ⟨e, served⟩ := d.serve_addSubflow_error parent aliasName kind (.inr there)
        rw [served]
        exact grows
    refine along_observe (Attempt.along_bind (along_ask grows after fun _ _ => ?_))
    refine Attempt.along_bind (along_listExecutions after fun rows _ => ?_)
    exact Attempt.along_bind (Attempt.along_ofExcept after fun row _ => Attempt.along_pure after trivial)

theorem along_setRequirement (grows : d₀.Grows own d) {id : NodeId}
    (mine : ∀ f ∈ d.realm.flows, ∀ x ∈ f.executions, x.id = id.text → own f.aliasName)
    (requirement : Requirement) :
    Along (d₀.Grows own) (fun _ _ => True) (setRequirement realm parent id requirement) d := by
  have found : Along (d₀.Grows own) (fun row d' => d' = d ∧ row.id = id)
      (rowUnder realm parent id) d := by
    refine Attempt.along_bind (along_listExecutions grows fun rows _ => ?_)
    split
    · next row found =>
      exact Attempt.along_pure grows ⟨rfl, by simpa using List.find?_some found⟩
    · exact Attempt.along_throw grows
  refine along_observe (Attempt.along_bind (found.mono (fun _ h => h) ?_))
  rintro row d - ⟨rfl, rfl⟩
  split
  · exact Attempt.along_pure grows trivial
  · refine along_ask (Q := fun _ _ => True) grows ?_ fun _ _ => trivial
    have settled : (d.serve (.updateExecution parent { row with requirement })).2 =
        if d.realm.hasExecution row.id.text then d.withRequirement row.id requirement else d := by
      simp only [serve, updateExecution, atExecution]
      split <;> rfl
    rw [settled]
    split
    · exact grows.requirement mine requirement
    · exact grows

theorem along_attachConfig (grows : d₀.Grows own d) {id : NodeId}
    (mine : ∀ f ∈ d.realm.flows, ∀ x ∈ f.executions, x.id = id.text → own f.aliasName)
    (aliasName : String) (settings : KeyMap String) :
    Along (d₀.Grows own) (fun _ _ => True) (attachConfig realm id aliasName settings) d := by
  refine along_observe (along_ask (Q := fun _ _ => True) grows ?_ fun _ _ => trivial)
  have settled : (d.serve (.createConfig id ⟨none, aliasName, settings⟩)).2 =
      if d.realm.hasExecution id.text then d.withConfig id ⟨none, aliasName, settings⟩ else d := by
    simp only [serve, createConfig]
    split <;> rfl
  rw [settled]
  split
  · exact grows.config mine _
  · exact grows

/-- The course of creating a node with its requirement and configuration. -/
theorem along_addNode (grows : d₀.Grows own d) (h : d.Numbered) (mine : own parent)
    (named : ∀ a ∈ n.ownAlias, ¬d₀.realm.hasFlow a = true → own a) :
    Along (d₀.Grows own) (fun _ d' => d.Takes parent n ∧ d' = d.planted parent n)
      (addNode realm parent n) d := by
  have created : Along (d₀.Grows own)
      (fun id d' => d.Takes parent n ∧ id = d.nextId n ∧ d' = d.added parent n)
      (creation realm parent n) d := by
    refine (along_creation realm grows mine named).eval.mono (fun _ h => h) ?_
    rintro id d' - ⟨-, ended⟩
    by_cases takes : d.Takes parent n
    · have same := (run_creation_ok realm takes).symm.trans ended
      cases same
      exact ⟨takes, rfl, rfl⟩
    · obtain ⟨e, d'', failed⟩ := run_creation_error realm takes
      exact nomatch failed.symm.trans ended
  -- The changes that follow are of the execution just created, which no flow but the parent has.
  have required : d.Takes parent n → d₀.Grows own (d.added parent n) →
      Along (d₀.Grows own) (fun _ d' => d' = d.required parent n)
        (setRequirement realm parent (d.nextId n) n.requirement) (d.added parent n) := by
    intro takes grows
    refine (along_setRequirement realm grows ?_ _).eval.mono (fun _ h => h) ?_
    · intro f hf x hx same
      exact holder_of_addExecution (h.nextId_fresh n) hf hx same ▸ mine
    · rintro _ d' - ⟨-, ended⟩
      have same := (run_setRequirement_added realm h takes.there).symm.trans ended
      cases same
      rfl
  have configured : ∀ spec, n.spec = some spec → d.Takes parent n →
      d₀.Grows own (d.required parent n) →
      Along (d₀.Grows own) (fun _ d' => d' = d.planted parent n)
        (attachConfig realm (d.nextId n) spec.aliasName spec.settings) (d.required parent n) := by
    intro spec hspec takes grows
    refine (along_attachConfig realm grows ?_ _ _).eval.mono (fun _ h => h) ?_
    · intro f hf x hx same
      have fresh : ({ d.sprout n with requirement := n.requirement } : FlowExecution).id ∉
          (d.ground n).executionIds := h.nextId_fresh n
      exact holder_of_addExecution fresh hf hx same ▸ mine
    · rintro _ d' - ⟨-, ended⟩
      have same := (run_attachConfig_required realm h takes.there hspec).symm.trans ended
      cases same
      rfl
  cases n with
  | leaf provider requirement config =>
    refine Attempt.along_bind (created.mono (fun _ h => h) ?_)
    rintro id d' grows ⟨takes, rfl, rfl⟩
    refine Attempt.along_bind (Attempt.along_ofExcept grows fun state _ => ?_)
    refine Attempt.along_bind ((required takes grows).mono (fun _ h => h) ?_)
    rintro _ d' grows rfl
    cases config with
    | none => exact Attempt.along_pure grows ⟨takes, rfl⟩
    | some spec =>
      refine Attempt.along_bind ((configured spec rfl takes grows).mono (fun _ h => h) ?_)
      rintro _ d' grows rfl
      exact Attempt.along_bind (Attempt.along_ofExcept grows fun _ _ =>
        Attempt.along_pure grows ⟨takes, rfl⟩)
  | subflow aliasName kind requirement nodes =>
    refine Attempt.along_bind (created.mono (fun _ h => h) ?_)
    rintro id d' grows ⟨takes, rfl, rfl⟩
    refine Attempt.along_bind (Attempt.along_ofExcept grows fun state _ => ?_)
    refine Attempt.along_bind ((required takes grows).mono (fun _ h => h) ?_)
    rintro _ d' grows rfl
    exact Attempt.along_pure grows ⟨takes, rfl⟩

mutual

/-- The course of creating a node and all below it. -/
theorem along_extendNode {d : FlowDesk} {parent : String} (grows : d₀.Grows own d) (h : d.Numbered)
    (mine : own parent) (n : Node) (named : ∀ a ∈ n.aliases, ¬d₀.realm.hasFlow a = true → own a)
    (start : BuildReport) :
    (extendNode realm start parent n).Along answer (d₀.Grows own)
      (fun outcome d' => outcome.2 = .ok () → d'.Numbered) d := by
  match n with
  | .leaf provider requirement config =>
    have node := along_addNode realm (n := .leaf provider requirement config) grows h mine
      fun a ha => absurd ha List.not_mem_nil
    rw [extendNode]
    refine Program.along_bind (Program.Along.mono node (fun _ h => h) ?_)
    intro result d' grows ended
    cases result with
    | error e => exact ⟨grows, fun ok => nomatch ok⟩
    | ok built =>
      obtain ⟨takes, rfl⟩ := ended built rfl
      exact ⟨grows, fun _ => h.planted takes⟩
  | .subflow aliasName kind requirement below =>
    rw [Node.aliases_subflow] at named
    have node := along_addNode realm (n := .subflow aliasName kind requirement below) grows h mine
      fun a ha => named a (List.mem_singleton.1 ha ▸ List.mem_cons_self)
    rw [extendNode]
    refine Program.along_bind (Program.Along.mono node (fun _ h => h) ?_)
    intro result d' grown ended
    cases result with
    | error e => exact ⟨grown, fun ok => nomatch ok⟩
    | ok built =>
      obtain ⟨takes, rfl⟩ := ended built rfl
      have mine_below : own aliasName :=
        named aliasName List.mem_cons_self fun before => takes.free (grows.hasFlow before)
      exact along_extendBelow grown (h.planted takes) mine_below below
        (fun a ha => named a (List.mem_cons_of_mem _ ha)) (start.add built)

/-- The course of creating nodes and all below them. -/
theorem along_extendBelow {d : FlowDesk} {parent : String} (grows : d₀.Grows own d) (h : d.Numbered)
    (mine : own parent) (nodes : List Node)
    (named : ∀ a ∈ Node.aliasesAll nodes, ¬d₀.realm.hasFlow a = true → own a) (start : BuildReport) :
    (extendBelow realm start parent nodes).Along answer (d₀.Grows own)
      (fun outcome d' => outcome.2 = .ok () → d'.Numbered) d := by
  match nodes with
  | [] =>
    rw [extendBelow]
    exact ⟨grows, fun _ => h⟩
  | n :: ns =>
    rw [Node.aliasesAll_cons] at named
    have first := along_extendNode grows h mine n (fun a ha => named a (List.mem_append_left _ ha)) start
    rw [extendBelow]
    refine Program.along_bind (first.mono (fun _ h => h) ?_)
    rintro ⟨report, result⟩ d' grows ended
    cases result with
    | error e => exact ⟨grows, fun ok => nomatch ok⟩
    | ok _ =>
      exact along_extendBelow grows (ended rfl) mine ns
        (fun a ha => named a (List.mem_append_right _ ha)) report

end

/-- Whatever comes of an extension, its changes are those of its own flows. -/
theorem along_extend (h : d.Numbered) (mine : own parent) (nodes : List Node)
    (named : ∀ a ∈ Node.aliasesAll nodes, ¬d.realm.hasFlow a = true → own a) (start : BuildReport) :
    Along (d.Grows own) (fun _ _ => True) (settled (extend realm start parent nodes)) d := by
  rw [extend_eq_extendBelow]
  refine Program.along_bind ((along_extendBelow realm .refl h mine nodes named start).mono
    (fun _ h => h) ?_)
  rintro ⟨report, result⟩ d' grows -
  exact ⟨grows, fun _ _ => trivial⟩

/-! ## What is kept -/

theorem Grows.issued_le (h : d.Grows own d') : d.issued ≤ d'.issued := by
  induction h with
  | refl => exact Nat.le_refl _
  | spend _ ih => exact Nat.le_succ_of_le ih
  | leaf _ _ _ _ ih => exact Nat.le_succ_of_le ih
  | subflow _ _ _ _ _ _ ih => exact Nat.le_succ_of_le (Nat.le_succ_of_le ih)
  | requirement _ _ _ ih => exact ih
  | config _ _ _ ih => exact Nat.le_succ_of_le ih

/-- What is kept under identifiers that were given out before stays. -/
theorem Grows.configs (h : d.Grows own d') {c : String} (hc : IsNumbered "config" 0 d.issued c) :
    d'.realm.configs.get? c = d.realm.configs.get? c := by
  induction h with
  | refl => rfl
  | spend _ ih => exact ih
  | leaf _ _ _ _ ih => exact ih
  | subflow _ _ _ _ _ _ ih => exact ih
  | requirement _ _ _ ih => exact ih
  | @config d' grows id _ config ih =>
    have new : identifier "config" (d'.issued + 1) ≠ c := by
      refine (hc.ne (isNumbered_identifier (Nat.lt_succ_of_le grows.issued_le) (Nat.le_refl _))).symm
    refine (KeyMap.get?_insert _ _ _ _).trans ?_
    rw [if_neg new]
    exact ih

section Kept

variable {P : String → Prop} [DecidablePred P]

theorem filter_addExecution {r : RealmFlows} {q : String} (other : ¬P q) (x : FlowExecution) :
    (r.addExecution q x).flows.filter (fun f => P f.aliasName) =
      r.flows.filter fun f => P f.aliasName := by
  refine filter_changeFirst fun f _ hf => ?_
  have name : f.aliasName = q := of_decide_eq_true hf
  simp [name, other]

theorem filter_changeExecution {r : RealmFlows} {id : String}
    (other : ∀ f ∈ r.flows, ∀ x ∈ f.executions, x.id = id → ¬P f.aliasName)
    (change : FlowExecution → FlowExecution) :
    (r.changeExecution id change).flows.filter (fun f => P f.aliasName) =
      r.flows.filter fun f => P f.aliasName := by
  refine filter_changeFirst fun f hf holds => ?_
  obtain ⟨x, hx, same⟩ := List.any_eq_true.1 holds
  have mine := other f hf x hx (of_decide_eq_true same)
  simp [mine]

/-- Flows with other names than those of its own stay as they are, and there are no new ones. -/
theorem Grows.kept (h : d.Grows own d') (apart : ∀ a, own a → ¬P a) :
    d'.realm.flows.filter (fun f => P f.aliasName) =
      d.realm.flows.filter fun f => P f.aliasName := by
  induction h with
  | refl => rfl
  | spend _ ih => exact ih
  | leaf _ mine _ _ ih => exact (filter_addExecution (apart _ mine) _).trans ih
  | subflow _ mine _ named _ _ ih =>
    refine (filter_addExecution (apart _ mine) _).trans ?_
    rw [RealmFlows.addFlow, List.filter_append, ih]
    simp [apart _ named]
  | requirement _ mine _ ih =>
    exact (filter_changeExecution (fun f hf x hx same => apart _ (mine f hf x hx same)) _).trans ih
  | config _ mine _ ih =>
    exact (filter_changeExecution (fun f hf x hx same => apart _ (mine f hf x hx same)) _).trans ih

end Kept

end FlowDesk

end RealmSetup
