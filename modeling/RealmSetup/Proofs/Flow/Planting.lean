import RealmSetup.Proofs.Flow.Extension

/-!
# What an extension makes

After an extension the realm shows the nodes it was given: `RealmFlows.Shows` relates nodes to the
executions of a flow and to the report, one constructor for each kind of node.  `Plants.shows` says that
the executions added by an extension show its nodes, and `Plants.others` that every other flow stays as
it was.  What is shown keeps being shown where the flows of its subflows and the configurations stay
(`Shows.congr`).
-/

namespace RealmSetup

/-! ## Aliases of subflows -/

namespace Node

mutual

/-- The aliases of the subflows in a node. -/
def aliases : Node → List String
  | .leaf _ _ _ => []
  | .subflow aliasName _ _ nodes => aliasName :: aliasesAll nodes

/-- The aliases of the subflows in some nodes. -/
def aliasesAll : List Node → List String
  | [] => []
  | n :: ns => n.aliases ++ aliasesAll ns

end

theorem aliasesAll_cons (n : Node) (ns : List Node) :
    aliasesAll (n :: ns) = n.aliases ++ aliasesAll ns := by
  rw [aliasesAll]

theorem aliasesAll_append (ns ms : List Node) :
    aliasesAll (ns ++ ms) = aliasesAll ns ++ aliasesAll ms := by
  induction ns with
  | nil => rfl
  | cons n ns ih => rw [List.cons_append, aliasesAll_cons, aliasesAll_cons, ih, List.append_assoc]

theorem aliases_leaf (provider : String) (requirement : Requirement) (config : Option ConfigSpec) :
    (Node.leaf provider requirement config).aliases = [] := by
  rw [aliases]

theorem aliases_subflow (aliasName : String) (kind : FlowKind) (requirement : Requirement)
    (nodes : List Node) :
    (Node.subflow aliasName kind requirement nodes).aliases = aliasName :: aliasesAll nodes := by
  rw [aliases]

/-- The alias of the flow that a node makes, apart from the nodes below it. -/
def ownAlias : Node → List String
  | .leaf _ _ _ => []
  | .subflow aliasName _ _ _ => [aliasName]

end Node

namespace FlowDesk

variable {d d' : FlowDesk} {parent : String} {n : Node} {nodes : List Node}
  {report : List BuiltNode}

/-! ## The flows after one node -/

theorem flow?_planted (a : String) :
    (d.planted parent n).realm.flow? a =
      if a = parent then
        ((d.ground n).flow? parent).map fun f => { f with executions := f.executions ++ [d.grown n] }
      else (d.ground n).flow? a := by
  rw [← RealmFlows.flow?_addExecution, planted]
  cases n.spec <;> rfl

theorem flow?_ground_of_hasFlow {a : String} (there : d.realm.hasFlow a = true) :
    (d.ground n).flow? a = d.realm.flow? a := by
  cases n with
  | leaf => rfl
  | subflow =>
    obtain ⟨f, found⟩ := RealmFlows.hasFlow_iff.1 there
    rw [ground, RealmFlows.flow?_addFlow, found, Option.some_or]

/-- The flow to which a node was added. -/
theorem flow?_planted_parent {f : FlowRecord} (found : d.realm.flow? parent = some f) :
    (d.planted parent n).realm.flow? parent =
      some { f with executions := f.executions ++ [d.grown n] } := by
  have there : d.realm.hasFlow parent = true := RealmFlows.hasFlow_iff.2 ⟨f, found⟩
  rw [flow?_planted, if_pos rfl, flow?_ground_of_hasFlow there, found, Option.map_some]

/-- Other flows stay as they are. -/
theorem flow?_planted_of_ne {a : String} (there : d.realm.hasFlow a = true) (other : a ≠ parent) :
    (d.planted parent n).realm.flow? a = d.realm.flow? a := by
  rw [flow?_planted, if_neg other, flow?_ground_of_hasFlow there]

/-- The flow of a new subflow, still without executions. -/
def newFlow (d : FlowDesk) (aliasName : String) (kind : FlowKind) : FlowRecord :=
  ⟨identifier "flow" (d.issued + 1), aliasName, "", kind, false, false, []⟩

theorem flow?_ground_subflow {aliasName : String} (kind : FlowKind) (requirement : Requirement)
    (below : List Node) (free : ¬d.realm.hasFlow aliasName = true) :
    (d.ground (.subflow aliasName kind requirement below)).flow? aliasName =
      some (d.newFlow aliasName kind) := by
  rw [ground, RealmFlows.flow?_addFlow, RealmFlows.not_hasFlow.1 free, Option.none_or, if_pos rfl]
  rfl

/-- The flows when a node was just created. -/
theorem flow?_added (a : String) (n : Node) :
    (d.added parent n).realm.flow? a =
      if a = parent then
        ((d.ground n).flow? parent).map fun f => { f with executions := f.executions ++ [d.sprout n] }
      else (d.ground n).flow? a :=
  RealmFlows.flow?_addExecution parent (d.sprout n) a

theorem flow?_added_parent {f : FlowRecord} (found : d.realm.flow? parent = some f) (n : Node) :
    (d.added parent n).realm.flow? parent =
      some { f with executions := f.executions ++ [d.sprout n] } := by
  have there : d.realm.hasFlow parent = true := RealmFlows.hasFlow_iff.2 ⟨f, found⟩
  rw [flow?_added, if_pos rfl, flow?_ground_of_hasFlow there, found, Option.map_some]

theorem flow?_added_subflow (there : d.realm.hasFlow parent = true) {aliasName : String}
    (kind : FlowKind) (requirement : Requirement) (below : List Node)
    (free : ¬d.realm.hasFlow aliasName = true) :
    (d.added parent (.subflow aliasName kind requirement below)).realm.flow? aliasName =
      some (d.newFlow aliasName kind) := by
  have other : aliasName ≠ parent := fun same => free (same ▸ there)
  rw [flow?_added, if_neg other, flow?_ground_subflow kind requirement below free]

theorem flow?_planted_subflow {aliasName : String} {kind : FlowKind} {requirement : Requirement}
    {below : List Node} (takes : d.Takes parent (.subflow aliasName kind requirement below)) :
    (d.planted parent (.subflow aliasName kind requirement below)).realm.flow? aliasName =
      some (d.newFlow aliasName kind) := by
  have other : aliasName ≠ parent := by
    rintro rfl
    exact takes.free takes.there
  rw [flow?_planted, if_neg other, flow?_ground_subflow kind requirement below takes.free]

theorem hasFlow_planted {a : String} :
    (d.planted parent n).realm.hasFlow a = true ↔ d.realm.hasFlow a = true ∨ a ∈ n.ownAlias := by
  have same : (d.planted parent n).realm.hasFlow a =
      ((d.ground n).addExecution parent (d.grown n)).hasFlow a := by
    unfold FlowDesk.planted
    cases n.spec <;> rfl
  rw [same, RealmFlows.hasFlow_addExecution]
  cases n with
  | leaf => simp [ground, Node.ownAlias]
  | subflow aliasName =>
    rw [ground, RealmFlows.hasFlow_addFlow, Bool.or_eq_true, decide_eq_true_eq, Node.ownAlias,
      List.mem_singleton, @eq_comm _ aliasName a]

theorem hasFlow_planted_of_hasFlow {a : String} (there : d.realm.hasFlow a = true) :
    (d.planted parent n).realm.hasFlow a = true :=
  hasFlow_planted.2 (.inl there)

/-- What is kept under an identifier stays, because a new configuration has a new one. -/
theorem Numbered.configs_planted (h : d.Numbered) {c : String} {config : AuthenticatorConfig}
    (kept : d.realm.configs.get? c = some config) :
    (d.planted parent n).realm.configs.get? c = some config := by
  have configs : (d.ground n).configs = d.realm.configs := by cases n <;> rfl
  unfold FlowDesk.planted
  cases n.spec with
  | none => exact configs ▸ kept
  | some spec =>
    have new : d.nextConfigId n ≠ c :=
      ((h.kept_issued c config kept).ne
        (isNumbered_identifier (Nat.lt_of_le_of_lt (Nat.le_add_right _ _) (Nat.lt_succ_self _))
          (Nat.le_refl _))).symm
    refine (KeyMap.get?_insert _ _ _ _).trans ?_
    rw [if_neg new]
    exact configs ▸ kept

/-! ## The flows after an extension -/

theorem Plants.hasFlow_iff (plants : d.Plants parent nodes report d') {a : String} :
    d'.realm.hasFlow a = true ↔ d.realm.hasFlow a = true ∨ a ∈ Node.aliasesAll nodes := by
  induction plants with
  | nil => simp [Node.aliasesAll]
  | leaf takes _ ih =>
    rw [ih, hasFlow_planted, Node.aliasesAll_cons, Node.aliases_leaf, Node.ownAlias]
    simp
  | subflow takes _ _ ihFirst ihRest =>
    rw [ihRest, ihFirst, hasFlow_planted, Node.aliasesAll_cons, Node.aliases_subflow, Node.ownAlias]
    simp [or_assoc]

/-- The aliases of new subflows are free and differ from each other. -/
theorem Plants.aliases_free (plants : d.Plants parent nodes report d') :
    (Node.aliasesAll nodes).Nodup ∧ ∀ a ∈ Node.aliasesAll nodes, ¬d.realm.hasFlow a = true := by
  induction plants with
  | nil => simp [Node.aliasesAll]
  | leaf takes _ ih =>
    rw [Node.aliasesAll_cons, Node.aliases_leaf, List.nil_append]
    exact ⟨ih.1, fun a ha there => ih.2 a ha (hasFlow_planted_of_hasFlow there)⟩
  | @subflow d between d' parent aliasName kind requirement below nodes inner report takes first rest
      ihFirst ihRest =>
    have own_there : (d.planted parent (.subflow aliasName kind requirement below)).realm.hasFlow
        aliasName = true := hasFlow_planted.2 (.inr (List.mem_singleton_self _))
    rw [Node.aliasesAll_cons, Node.aliases_subflow, List.cons_append, List.nodup_cons,
      List.nodup_append]
    refine ⟨⟨?_, ihFirst.1, ihRest.1, ?_⟩, ?_⟩
    · intro again
      rcases List.mem_append.1 again with again | again
      · exact ihFirst.2 _ again own_there
      · exact ihRest.2 _ again (first.hasFlow_iff.2 (.inl own_there))
    · rintro a inside b after rfl
      exact ihRest.2 a after (first.hasFlow_iff.2 (.inr inside))
    · intro a ha there
      rcases List.mem_cons.1 ha with rfl | ha
      · exact takes.free there
      rcases List.mem_append.1 ha with ha | ha
      · exact ihFirst.2 a ha (hasFlow_planted_of_hasFlow there)
      · exact ihRest.2 a ha (first.hasFlow_iff.2 (.inl (hasFlow_planted_of_hasFlow there)))

/-- Flows other than the one that is extended stay as they are. -/
theorem Plants.others (plants : d.Plants parent nodes report d') {a : String}
    (there : d.realm.hasFlow a = true) (other : a ≠ parent) :
    d'.realm.flow? a = d.realm.flow? a := by
  induction plants with
  | nil => rfl
  | leaf takes _ ih =>
    rw [ih (hasFlow_planted_of_hasFlow there) other, flow?_planted_of_ne there other]
  | subflow takes first _ ihFirst ihRest =>
    rw [ihRest (first.hasFlow_iff.2 (.inl (hasFlow_planted_of_hasFlow there))) other,
      ihFirst (hasFlow_planted_of_hasFlow there) fun same => takes.free (same ▸ there),
      flow?_planted_of_ne there other]

/-- Configurations stay as they are. -/
theorem Plants.configs (plants : d.Plants parent nodes report d') (h : d.Numbered) {c : String}
    {config : AuthenticatorConfig} (kept : d.realm.configs.get? c = some config) :
    d'.realm.configs.get? c = some config := by
  induction plants with
  | nil => exact kept
  | leaf takes _ ih => exact ih (h.planted takes) (h.configs_planted kept)
  | subflow takes first _ ihFirst ihRest =>
    have numbered := h.planted takes
    exact ihRest (numbered.plants first) (ihFirst numbered (h.configs_planted kept))

end FlowDesk

/-! ## What is shown -/

namespace RealmFlows

/-- An execution is what a node is to become, with its configuration where it has one. -/
structure Becomes (r : RealmFlows) (n : Node) (x : FlowExecution) : Prop where
  /-- It has the requirement of the node. -/
  requirement : x.requirement = n.requirement
  /-- It calls for what the node calls for. -/
  target : x.target = n.target
  /-- It has the configuration of the node and no other. -/
  config : match n.spec with
    | none => x.configId = none
    | some spec => ∃ c, x.configId = some c ∧
        r.configs.get? c = some ⟨some c, spec.aliasName, spec.settings⟩

/-- The executions of a flow show nodes, with the flows below them, and are reported in order. -/
inductive Shows (r : RealmFlows) :
    String → List Node → List FlowExecution → List BuiltNode → Prop
  /-- There are no nodes. -/
  | nil (parent : String) : Shows r parent [] [] []
  /-- A leaf comes first. -/
  | leaf {parent provider : String} {requirement : Requirement} {config : Option ConfigSpec}
      {x : FlowExecution} {nodes : List Node} {xs : List FlowExecution} {report : List BuiltNode}
      (becomes : r.Becomes (.leaf provider requirement config) x)
      (rest : Shows r parent nodes xs report) :
      Shows r parent (.leaf provider requirement config :: nodes) (x :: xs)
        (⟨⟨x.id⟩, parent, provider, requirement,
          (Node.leaf provider requirement config).finalState⟩ :: report)
  /-- A subflow comes first, and its flow shows what is below it. -/
  | subflow {parent aliasName : String} {kind : FlowKind} {requirement : Requirement}
      {below : List Node} {x : FlowExecution} {f : FlowRecord} {nodes : List Node}
      {xs : List FlowExecution} {inner report : List BuiltNode}
      (becomes : r.Becomes (.subflow aliasName kind requirement below) x)
      (found : r.flow? aliasName = some f) (isKind : f.kind = kind)
      (first : Shows r aliasName below f.executions inner) (rest : Shows r parent nodes xs report) :
      Shows r parent (.subflow aliasName kind requirement below :: nodes) (x :: xs)
        (⟨⟨x.id⟩, parent, aliasName, requirement, .created⟩ :: (inner ++ report))

variable {r r' : RealmFlows} {parent : String} {nodes nodes' : List Node}
  {xs xs' : List FlowExecution} {report report' : List BuiltNode}

theorem Shows.append (h : r.Shows parent nodes xs report) (h' : r.Shows parent nodes' xs' report') :
    r.Shows parent (nodes ++ nodes') (xs ++ xs') (report ++ report') := by
  induction h with
  | nil => exact h'
  | leaf becomes _ ih => exact .leaf becomes (ih h')
  | subflow becomes found isKind first _ _ ih =>
    rw [List.cons_append, List.cons_append, List.cons_append, List.append_assoc]
    exact .subflow becomes found isKind first (ih h')

theorem Shows.hasFlow (h : r.Shows parent nodes xs report) {a : String}
    (ha : a ∈ Node.aliasesAll nodes) : r.hasFlow a = true := by
  induction h with
  | nil => exact absurd ha List.not_mem_nil
  | leaf _ _ ih =>
    rw [Node.aliasesAll_cons, Node.aliases_leaf] at ha
    exact ih ha
  | subflow _ found _ _ _ ihFirst ihRest =>
    rw [Node.aliasesAll_cons, Node.aliases_subflow] at ha
    rcases List.mem_append.1 ha with ha | ha
    · rcases List.mem_cons.1 ha with rfl | ha
      · exact hasFlow_iff.2 ⟨_, found⟩
      · exact ihFirst ha
    · exact ihRest ha

theorem Becomes.congr {n : Node} {x : FlowExecution} (h : r.Becomes n x)
    (configs : ∀ c config, r.configs.get? c = some config → r'.configs.get? c = some config) :
    r'.Becomes n x := by
  refine ⟨h.requirement, h.target, ?_⟩
  have bound := h.config
  cases spec : n.spec with
  | none =>
    rw [spec] at bound
    exact bound
  | some s =>
    rw [spec] at bound
    obtain ⟨c, hc, kept⟩ := bound
    exact ⟨c, hc, configs c _ kept⟩

/-- What is shown depends on the flows of its subflows and on configurations that are kept. -/
theorem Shows.congr (h : r.Shows parent nodes xs report)
    (same : ∀ a ∈ Node.aliasesAll nodes, r'.flow? a = r.flow? a)
    (configs : ∀ c config, r.configs.get? c = some config → r'.configs.get? c = some config) :
    r'.Shows parent nodes xs report := by
  induction h with
  | nil => exact .nil _
  | leaf becomes _ ih =>
    rw [Node.aliasesAll_cons, Node.aliases_leaf] at same
    exact .leaf (becomes.congr configs) (ih same)
  | @subflow parent aliasName kind requirement below x f nodes xs inner report becomes found isKind
      first rest ihFirst ihRest =>
    rw [Node.aliasesAll_cons, Node.aliases_subflow] at same
    have own := same aliasName (List.mem_append_left _ List.mem_cons_self)
    have inside := ihFirst fun a ha => same a (List.mem_append_left _ (List.mem_cons_of_mem _ ha))
    have after := ihRest fun a ha => same a (List.mem_append_right _ ha)
    exact .subflow (becomes.congr configs) (own.trans found) isKind inside after

end RealmFlows

namespace FlowDesk

variable {d d' : FlowDesk} {parent : String} {n : Node} {nodes : List Node}
  {report : List BuiltNode}

/-- A node that was created has become what it was to become. -/
theorem becomes_planted (d : FlowDesk) (parent : String) (n : Node) :
    (d.planted parent n).realm.Becomes n (d.grown n) := by
  refine ⟨rfl, rfl, ?_⟩
  unfold planted
  cases spec : n.spec with
  | none => simp [grown, spec]
  | some s =>
    refine ⟨d.nextConfigId n, by simp [grown, spec], ?_⟩
    exact (KeyMap.get?_insert _ _ _ _).trans (if_pos rfl)

/-- An extension adds executions that show its nodes. -/
theorem Plants.shows (plants : d.Plants parent nodes report d') (h : d.Numbered) {f : FlowRecord}
    (found : d.realm.flow? parent = some f) :
    ∃ xs, d'.realm.flow? parent = some { f with executions := f.executions ++ xs } ∧
      d'.realm.Shows parent nodes xs report := by
  induction plants generalizing f with
  | nil => exact ⟨[], by rw [found, List.append_nil], .nil _⟩
  | @leaf d d' parent provider requirement config nodes report takes rest ih =>
    have numbered := h.planted takes
    obtain ⟨xs, found', shows⟩ := ih numbered (flow?_planted_parent found)
    refine ⟨d.grown (.leaf provider requirement config) :: xs, ?_, ?_⟩
    · rw [found', List.append_assoc, List.singleton_append]
    · have becomes := (becomes_planted d parent (.leaf provider requirement config)).congr
        fun c config kept => rest.configs numbered kept
      exact .leaf becomes shows
  | @subflow d between d' parent aliasName kind requirement below nodes inner report takes first rest
      ihFirst ihRest =>
    have numbered := h.planted takes
    have numbered' := numbered.plants first
    have other : parent ≠ aliasName := by
      rintro rfl
      exact takes.free takes.there
    have own_there : (d.planted parent (.subflow aliasName kind requirement below)).realm.hasFlow
        parent = true := hasFlow_planted_of_hasFlow takes.there
    -- The nodes below go into the new flow, so that they leave the parent alone, and those behind it
    -- leave the new flow alone.
    obtain ⟨ys, below_found, below_shows⟩ := ihFirst numbered (flow?_planted_subflow takes)
    have parent_found := (first.others own_there other).trans (flow?_planted_parent found)
    obtain ⟨xs, found', shows⟩ := ihRest numbered' parent_found
    refine ⟨d.grown (.subflow aliasName kind requirement below) :: xs, ?_, ?_⟩
    · rw [found', List.append_assoc, List.singleton_append]
    · have configs := fun c config (kept : between.realm.configs.get? c = some config) =>
        rest.configs numbered' kept
      have becomes := ((becomes_planted d parent (.subflow aliasName kind requirement below)).congr
        fun c config kept => first.configs numbered kept).congr configs
      have alias_there : between.realm.hasFlow aliasName = true :=
        RealmFlows.hasFlow_iff.2 ⟨_, below_found⟩
      have below_found' := (rest.others alias_there (Ne.symm other)).trans below_found
      have below_kept : ∀ a ∈ Node.aliasesAll below,
          d'.realm.flow? a = between.realm.flow? a := by
        intro a ha
        refine rest.others (below_shows.hasFlow ha) ?_
        rintro rfl
        exact first.aliases_free.2 _ ha own_there
      exact .subflow becomes below_found' rfl (below_shows.congr below_kept configs) shows

end FlowDesk

end RealmSetup
