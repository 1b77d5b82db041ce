import RealmSetup.Proofs.Flow.Steps

/-!
# Extensions

An extension adds nodes with all below them to a flow.  The list of nodes that are still to be created
comes to the recursion on the trees (`extend_eq_extendBelow`), and an extension succeeds just where each
node can be created when its turn comes (`run_extend_iff`).  `FlowDesk.Plants` records such a course: the
nodes that were built in order, and the desk they leave.
-/

namespace RealmSetup

namespace Builder

variable {realm : String}

/-! ## Pending nodes and trees -/

/-- Goes on with pending nodes, unless an error came before them. -/
def extendAfter (realm : String) (rest : List (String × Node)) (outcome : Outcome) :
    Program FlowSite Outcome :=
  match outcome.2 with
  | .error e => return (outcome.1, .error e)
  | .ok () => extendPending realm outcome.1 rest

theorem extendPending_cons (report : BuildReport) (parent : String) (n : Node)
    (rest : List (String × Node)) :
    extendPending realm report ((parent, n) :: rest) =
      (addNode realm parent n).run >>= fun result =>
        match result with
        | .error e => return (report, .error e)
        | .ok built => extendPending realm (report.add built) (childrenOf n ++ rest) := by
  exact extendPending.eq_2 realm report parent n rest

/-- Pending nodes of one parent are created, each with all below it, before those behind them. -/
theorem extendPending_append (report : BuildReport) (parent : String) (nodes : List Node)
    (rest : List (String × Node)) :
    extendPending realm report (nodes.map (parent, ·) ++ rest) =
      extendBelow realm report parent nodes >>= extendAfter realm rest := by
  induction nodes using Node.forest_induction generalizing report parent rest with
  | nil => rw [extendBelow]; rfl
  | leaf provider requirement config ns ih =>
    rw [List.map_cons, List.cons_append, extendPending_cons, extendBelow, extendNode]
    simp only [Program.bind_assoc]
    congr 1
    funext result
    cases result with
    | error e => rfl
    | ok built => exact ih _ parent rest
  | subflow aliasName kind requirement below ns ihBelow ih =>
    -- What stands below goes before the siblings, which join the rest for as long.
    have first := fun report => ihBelow report aliasName (ns.map (parent, ·) ++ rest)
    rw [List.map_cons, List.cons_append, extendPending_cons, extendBelow, extendNode]
    simp only [Program.bind_assoc]
    congr 1
    funext result
    cases result with
    | error e => rfl
    | ok built =>
      refine (first _).trans ?_
      congr 1
      funext outcome
      obtain ⟨report', result⟩ := outcome
      cases result with
      | error e => rfl
      | ok _ => exact ih report' parent rest

/-- The list of pending nodes comes to the recursion on the trees. -/
theorem extend_eq_extendBelow (report : BuildReport) (parent : String) (nodes : List Node) :
    extend realm report parent nodes = extendBelow realm report parent nodes := by
  have split : extendPending realm report (nodes.map (parent, ·) ++ []) = _ :=
    extendPending_append report parent nodes []
  rw [List.append_nil] at split
  refine split.trans ?_
  have stop : extendAfter realm [] = Program.done := by
    funext outcome
    obtain ⟨report', result⟩ := outcome
    cases result with
    | error e => rfl
    | ok _ => rw [extendAfter, extendPending]; rfl
  rw [stop]
  exact Program.bind_done _

end Builder

open Builder

/-! ## The course of an extension -/

/-- A report with more nodes. -/
def BuildReport.addAll (r : BuildReport) (ns : List BuiltNode) : BuildReport :=
  { r with nodes := r.nodes ++ ns }

theorem BuildReport.addAll_nil (r : BuildReport) : r.addAll [] = r := by
  simp [addAll]

theorem BuildReport.add_addAll (r : BuildReport) (n : BuiltNode) (ns : List BuiltNode) :
    (r.add n).addAll ns = r.addAll (n :: ns) := by
  simp [addAll, add]

theorem BuildReport.addAll_addAll (r : BuildReport) (ns ms : List BuiltNode) :
    (r.addAll ns).addAll ms = r.addAll (ns ++ ms) := by
  simp [addAll]

namespace FlowDesk

/-- Nodes are created in a flow in order, each with all below it, and are reported so. -/
inductive Plants : FlowDesk → String → List Node → List BuiltNode → FlowDesk → Prop
  /-- Nothing is left to create. -/
  | nil (d : FlowDesk) (parent : String) : Plants d parent [] [] d
  /-- A leaf comes first. -/
  | leaf {d d' : FlowDesk} {parent provider : String} {requirement : Requirement}
      {config : Option ConfigSpec} {nodes : List Node} {report : List BuiltNode}
      (takes : d.Takes parent (.leaf provider requirement config))
      (rest : Plants (d.planted parent (.leaf provider requirement config)) parent nodes report d') :
      Plants d parent (.leaf provider requirement config :: nodes)
        (d.built parent (.leaf provider requirement config) :: report) d'
  /-- A subflow comes first, and then what is below it. -/
  | subflow {d between d' : FlowDesk} {parent aliasName : String} {kind : FlowKind}
      {requirement : Requirement} {below nodes : List Node} {inner report : List BuiltNode}
      (takes : d.Takes parent (.subflow aliasName kind requirement below))
      (first : Plants (d.planted parent (.subflow aliasName kind requirement below)) aliasName below
        inner between)
      (rest : Plants between parent nodes report d') :
      Plants d parent (.subflow aliasName kind requirement below :: nodes)
        (d.built parent (.subflow aliasName kind requirement below) :: (inner ++ report)) d'

variable {d d' : FlowDesk} {parent : String} {nodes : List Node} {report : List BuiltNode}

theorem Numbered.planted (h : d.Numbered) {n : Node} (takes : d.Takes parent n) :
    (d.planted parent n).Numbered := by
  have kept := h.run (addNode "" parent n)
  rwa [run_addNode_ok "" h takes] at kept

theorem Numbered.plants (h : d.Numbered) (plants : d.Plants parent nodes report d') : d'.Numbered := by
  induction plants with
  | nil => exact h
  | leaf takes _ ih => exact ih (h.planted takes)
  | subflow takes _ _ ihFirst ihRest => exact ihRest (ihFirst (h.planted takes))

variable (realm : String)

/-- The outcome of an extension and the desk it leaves. -/
def runExtend (start : BuildReport) (parent : String) (nodes : List Node) (d : FlowDesk) :
    Outcome × FlowDesk :=
  (extendBelow realm start parent nodes).eval answer d

theorem runExtend_nil (start : BuildReport) (d : FlowDesk) :
    d.runExtend realm start parent [] = ((start, .ok ()), d) := by
  rw [runExtend, extendBelow]
  rfl

/-- A node that cannot be created ends the extension. -/
theorem runExtend_cons_error (start : BuildReport) {n : Node} (nodes : List Node)
    (refused : ¬d.Takes parent n) :
    ∃ e d', d.runExtend realm start parent (n :: nodes) = ((start, .error e), d') := by
  obtain ⟨e, d', ended⟩ := run_addNode_error realm refused
  refine ⟨e, d', ?_⟩
  have ended : (addNode realm parent n).run.eval answer d = (.error e, d') := ended
  cases n with
  | leaf =>
    rw [runExtend, extendBelow, extendNode]
    simp only [Program.eval_bind, ended]
    rfl
  | subflow =>
    rw [runExtend, extendBelow, extendNode]
    simp only [Program.eval_bind, ended]
    rfl

theorem runExtend_leaf (h : d.Numbered) (start : BuildReport) {provider : String}
    {requirement : Requirement} {config : Option ConfigSpec}
    (takes : d.Takes parent (.leaf provider requirement config)) :
    d.runExtend realm start parent (.leaf provider requirement config :: nodes) =
      (d.planted parent (.leaf provider requirement config)).runExtend realm
        (start.add (d.built parent (.leaf provider requirement config))) parent nodes := by
  have created : (addNode realm parent (.leaf provider requirement config)).run.eval answer d = _ :=
    run_addNode_ok realm h takes
  rw [runExtend, extendBelow, extendNode]
  simp only [Program.eval_bind, created]
  rfl

theorem runExtend_subflow (h : d.Numbered) (start : BuildReport) {aliasName : String}
    {kind : FlowKind} {requirement : Requirement} {below : List Node}
    (takes : d.Takes parent (.subflow aliasName kind requirement below)) :
    d.runExtend realm start parent (.subflow aliasName kind requirement below :: nodes) =
      match (d.planted parent (.subflow aliasName kind requirement below)).runExtend realm
        (start.add (d.built parent (.subflow aliasName kind requirement below))) aliasName below with
      | ((report, .error e), d') => ((report, .error e), d')
      | ((report, .ok ()), d') => d'.runExtend realm report parent nodes := by
  have created : (addNode realm parent (.subflow aliasName kind requirement below)).run.eval answer d
      = _ := run_addNode_ok realm h takes
  rw [runExtend, extendBelow, extendNode]
  simp only [Program.eval_bind, created]
  unfold runExtend
  generalize (extendBelow realm _ aliasName below).eval answer _ = ended
  obtain ⟨⟨report, result⟩, d'⟩ := ended
  cases result <;> rfl

theorem runExtend_of_plants (h : d.Numbered) (plants : d.Plants parent nodes report d')
    (start : BuildReport) :
    d.runExtend realm start parent nodes = ((start.addAll report, .ok ()), d') := by
  induction plants generalizing start with
  | nil => rw [runExtend_nil, BuildReport.addAll_nil]
  | leaf takes _ ih =>
    rw [runExtend_leaf realm h start takes, ih (h.planted takes), BuildReport.add_addAll]
  | subflow takes first _ ihFirst ihRest =>
    have numbered := h.planted takes
    rw [runExtend_subflow realm h start takes, ihFirst numbered]
    simp only [ihRest (numbered.plants first), BuildReport.add_addAll, BuildReport.addAll_addAll,
      List.cons_append]

/-- An extension that succeeds has taken the course of its nodes. -/
theorem plants_of_runExtend {d d' : FlowDesk} {parent : String} (h : d.Numbered)
    {start final : BuildReport} (nodes : List Node)
    (ended : d.runExtend realm start parent nodes = ((final, .ok ()), d')) :
    ∃ report, d.Plants parent nodes report d' ∧ final = start.addAll report := by
  induction nodes using Node.forest_induction generalizing d d' parent start final with
  | nil =>
    rw [runExtend_nil] at ended
    cases ended
    exact ⟨[], .nil d parent, (BuildReport.addAll_nil start).symm⟩
  | leaf provider requirement config ns ih =>
    by_cases takes : d.Takes parent (.leaf provider requirement config)
    · rw [runExtend_leaf realm h start takes] at ended
      obtain ⟨report, plants, rfl⟩ := ih (h.planted takes) ended
      exact ⟨_, .leaf takes plants, BuildReport.add_addAll _ _ _⟩
    · obtain ⟨e, d'', failed⟩ := runExtend_cons_error realm start ns takes
      rw [failed] at ended
      cases ended
  | subflow aliasName kind requirement below ns ihBelow ih =>
    by_cases takes : d.Takes parent (.subflow aliasName kind requirement below)
    · rw [runExtend_subflow realm h start takes] at ended
      have numbered := h.planted takes
      split at ended
      · cases ended
      · next middle between first =>
        obtain ⟨inner, plants, rfl⟩ := ihBelow numbered first
        obtain ⟨report, rest, rfl⟩ := ih (numbered.plants plants) ended
        refine ⟨_, .subflow takes plants rest, ?_⟩
        rw [BuildReport.addAll_addAll, BuildReport.add_addAll]
    · obtain ⟨e, d'', failed⟩ := runExtend_cons_error realm start ns takes
      rw [failed] at ended
      cases ended

/-- An extension succeeds just where its nodes can be created, each when its turn comes. -/
theorem run_extend_iff (h : d.Numbered) (start final : BuildReport) (parent : String)
    (nodes : List Node) (d' : FlowDesk) :
    run (settled (extend realm start parent nodes)) d = (.ok final, d') ↔
      ∃ report, d.Plants parent nodes report d' ∧ final = start.addAll report := by
  have ended : run (settled (extend realm start parent nodes)) d =
      match d.runExtend realm start parent nodes with
      | ((report, .ok ()), d') => (.ok report, d')
      | ((_, .error e), d') => (.error e, d') := by
    rw [extend_eq_extendBelow, run, settled, Attempt.eval_ofProgram, Program.eval_bind]
    unfold runExtend
    generalize (extendBelow realm start parent nodes).eval answer d = outcome
    obtain ⟨⟨report, result⟩, d'⟩ := outcome
    cases result <;> rfl
  rw [ended]
  constructor
  · intro same
    split at same
    · next report between course =>
      cases same
      exact plants_of_runExtend realm h nodes course
    · cases same
  · rintro ⟨report, plants, rfl⟩
    rw [runExtend_of_plants realm h plants]

end FlowDesk

end RealmSetup
