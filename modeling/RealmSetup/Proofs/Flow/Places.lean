import Mathlib.Data.List.Forall2
import RealmSetup.Proofs.Flow.Planting

/-!
# Places in a tree and rows of a listing

A listing goes through a flow as a walk goes through its tree.  `Node.placesAll` is that walk, with the
level and the index of every node; `Placement.Reports` and `Placement.Describes` say what the report and
a row tell of a node at its place.  Where a flow shows nodes, its listing consists of rows that describe
the places of these nodes one by one (`RealmFlows.Shows.rows`), as long as the levels go into the field
of a row.
-/

namespace RealmSetup

/-- A node of a tree at its place. -/
structure Placement where
  /-- The alias of the flow it stands in. -/
  parent : String
  /-- The node. -/
  node : Node
  /-- Its depth. -/
  level : Nat
  /-- Its place among its siblings. -/
  index : Nat

namespace Node

mutual

/-- The places of a node and of all below it, each before those below it. -/
def places (parent : String) (level index : Nat) : Node → List Placement
  | .leaf p r c => [⟨parent, .leaf p r c, level, index⟩]
  | .subflow a k r nodes => ⟨parent, .subflow a k r nodes, level, index⟩ :: placesAll a (level + 1) 0 nodes

/-- The places of some nodes, the first of which stands at an index. -/
def placesAll (parent : String) (level index : Nat) : List Node → List Placement
  | [] => []
  | n :: ns => n.places parent level index ++ placesAll parent level (index + 1) ns

end

mutual

/-- How many levels a node takes up, its own included. -/
def height : Node → Nat
  | .leaf _ _ _ => 1
  | .subflow _ _ _ nodes => 1 + heightAll nodes

/-- How many levels some nodes take up. -/
def heightAll : List Node → Nat
  | [] => 0
  | n :: ns => max n.height (heightAll ns)

end

theorem placesAll_leaf (parent provider : String) (requirement : Requirement)
    (config : Option ConfigSpec) (ns : List Node) (level index : Nat) :
    placesAll parent level index (.leaf provider requirement config :: ns) =
      ⟨parent, .leaf provider requirement config, level, index⟩ ::
        placesAll parent level (index + 1) ns := by
  rw [placesAll, places, List.singleton_append]

theorem placesAll_subflow (parent aliasName : String) (kind : FlowKind) (requirement : Requirement)
    (below ns : List Node) (level index : Nat) :
    placesAll parent level index (.subflow aliasName kind requirement below :: ns) =
      ⟨parent, .subflow aliasName kind requirement below, level, index⟩ ::
        (placesAll aliasName (level + 1) 0 below ++ placesAll parent level (index + 1) ns) := by
  rw [placesAll, places, List.cons_append]

theorem heightAll_leaf (provider : String) (requirement : Requirement) (config : Option ConfigSpec)
    (ns : List Node) :
    heightAll (.leaf provider requirement config :: ns) = max 1 (heightAll ns) := by
  rw [heightAll, height]

theorem heightAll_subflow (aliasName : String) (kind : FlowKind) (requirement : Requirement)
    (below ns : List Node) :
    heightAll (.subflow aliasName kind requirement below :: ns) =
      max (1 + heightAll below) (heightAll ns) := by
  rw [heightAll, height]

theorem heightAll_append (ns ms : List Node) :
    heightAll (ns ++ ms) = max (heightAll ns) (heightAll ms) := by
  induction ns with
  | nil => simp [heightAll]
  | cons n ns ih => rw [List.cons_append, heightAll, heightAll, ih, Nat.max_assoc]

/-- No place is deeper than the nodes are high. -/
theorem level_lt {parent : String} {level index : Nat} (ns : List Node) {q : Placement}
    (hq : q ∈ placesAll parent level index ns) : q.level < level + heightAll ns := by
  induction ns using forest_induction generalizing parent level index with
  | nil =>
    rw [placesAll] at hq
    exact absurd hq List.not_mem_nil
  | leaf provider requirement config ns ih =>
    rw [placesAll_leaf] at hq
    rw [heightAll_leaf]
    rcases List.mem_cons.1 hq with rfl | hq
    · simp only
      omega
    · have := ih hq
      omega
  | subflow aliasName kind requirement below ns ihBelow ih =>
    rw [placesAll_subflow] at hq
    rw [heightAll_subflow]
    rcases List.mem_cons.1 hq with rfl | hq
    · simp only
      omega
    rcases List.mem_append.1 hq with hq | hq
    · have := ihBelow hq
      omega
    · have := ih hq
      omega

end Node

/-- A place one level further down. -/
def Placement.deeper (q : Placement) : Placement := { q with level := q.level + 1 }

theorem Node.placesAll_succ (parent : String) (level index : Nat) (ns : List Node) :
    Node.placesAll parent (level + 1) index ns =
      (Node.placesAll parent level index ns).map Placement.deeper := by
  induction ns using Node.forest_induction generalizing parent level index with
  | nil => rw [placesAll, placesAll, List.map_nil]
  | leaf provider requirement config ns ih =>
    rw [placesAll_leaf, placesAll_leaf, List.map_cons, ih]
    rfl
  | subflow aliasName kind requirement below ns ihBelow ih =>
    rw [placesAll_subflow, placesAll_subflow, List.map_cons, List.map_append, ih, ihBelow]
    rfl

namespace Node

/-- Whether a node is a flow of its own. -/
def isFlow : Node → Bool
  | .leaf _ _ _ => false
  | .subflow _ _ _ _ => true

/-- The authenticator of a leaf, the kind of a subflow. -/
def providerId : Node → String
  | .leaf provider _ _ => provider
  | .subflow _ kind _ _ => kind.providerId

end Node

namespace Placement

/-- What a report tells of a node. -/
structure Reports (q : Placement) (b : BuiltNode) : Prop where
  /-- The flow it was added to. -/
  parent : b.parent = q.parent
  /-- Its authenticator or alias. -/
  label : b.label = q.node.label
  /-- The requirement it was given. -/
  requirement : b.requirement = q.node.requirement
  /-- Whether it was configured. -/
  state : b.state = q.node.finalState

/-- What a row of a listing tells of a node. -/
structure Describes (q : Placement) (e : Execution) : Prop where
  /-- The requirement of the node. -/
  requirement : e.requirement = q.node.requirement
  /-- Its authenticator or alias. -/
  displayName : e.displayName = q.node.label
  /-- Whether it is a subflow. -/
  isFlow : e.isFlow = q.node.isFlow
  /-- Its authenticator or the kind of its flow. -/
  providerId : e.providerId = some q.node.providerId
  /-- Whether it is configured. -/
  configured : e.configId.isSome = q.node.spec.isSome
  /-- Its depth. -/
  level : e.level.toNat = q.level
  /-- Its place among its siblings, if the field holds it. -/
  index : q.index < UInt32.size → e.index.toNat = q.index

theorem Describes.deeper {q : Placement} {e : Execution} (h : q.Describes e)
    (fits : q.level + 1 < UInt32.size) : q.deeper.Describes e.deeper where
  requirement := h.requirement
  displayName := h.displayName
  isFlow := h.isFlow
  providerId := h.providerId
  configured := h.configured
  level := by
    have level := h.level
    simp only [Execution.deeper, Placement.deeper, UInt32.toNat_add, UInt32.toNat_one, level]
    exact Nat.mod_eq_of_lt fits
  index := h.index

theorem forall₂_deeper {qs : List Placement} {es : List Execution} (h : List.Forall₂ Describes qs es)
    (fits : ∀ q ∈ qs, q.level + 1 < UInt32.size) :
    List.Forall₂ Describes (qs.map Placement.deeper) (es.map Execution.deeper) := by
  induction h with
  | nil => exact .nil
  | cons describes _ ih =>
    exact .cons (describes.deeper (fits _ List.mem_cons_self))
      (ih fun q hq => fits q (List.mem_cons_of_mem _ hq))

end Placement

namespace RealmFlows

variable {r : RealmFlows} {parent : String} {nodes : List Node} {xs : List FlowExecution}
  {report : List BuiltNode} {n : Node} {x : FlowExecution}

/-! ## The rows of what is shown -/

/-- The flows of the subflows that are shown are whole. -/
theorem Shows.whole (h : r.Shows parent nodes xs report) {b : String} (hx : x ∈ xs)
    (called : x.nested? = some b) : r.Whole b := by
  induction h generalizing x b with
  | nil => exact absurd hx List.not_mem_nil
  | leaf becomes _ ih =>
    rcases List.mem_cons.1 hx with rfl | hx
    · rw [FlowExecution.nested?, becomes.target] at called
      cases called
    · exact ih hx called
  | subflow becomes found _ _ _ ihFirst ihRest =>
    rcases List.mem_cons.1 hx with rfl | hx
    · rw [FlowExecution.nested?, becomes.target] at called
      cases called
      refine .intro found fun c hc => ?_
      obtain ⟨y, hy, called⟩ := mem_nested_iff.1 hc
      exact ihFirst hy called
    · exact ihRest hx called

theorem whole_of_shows {f : FlowRecord} (found : r.flow? parent = some f)
    (h : r.Shows parent nodes f.executions report) : r.Whole parent := by
  refine .intro found fun b hb => ?_
  obtain ⟨x, hx, called⟩ := mem_nested_iff.1 hb
  exact h.whole hx called

theorem nested?_of_becomes_leaf {provider : String} {requirement : Requirement}
    {config : Option ConfigSpec} (h : r.Becomes (.leaf provider requirement config) x) :
    x.nested? = none := by
  rw [FlowExecution.nested?, h.target]
  rfl

theorem nested?_of_becomes_subflow {aliasName : String} {kind : FlowKind} {requirement : Requirement}
    {below : List Node} (h : r.Becomes (.subflow aliasName kind requirement below) x) :
    x.nested? = some aliasName := by
  rw [FlowExecution.nested?, h.target]
  rfl

theorem configId_of_becomes (h : r.Becomes n x) : x.configId.isSome = n.spec.isSome := by
  have config := h.config
  cases spec : n.spec with
  | none =>
    rw [spec] at config
    rw [config]
    rfl
  | some s =>
    rw [spec] at config
    obtain ⟨c, hc, -⟩ := config
    rw [hc]
    rfl

/-- An index goes into its field, or the field holds the greatest number. -/
theorem row_index (level index : Nat) (x : FlowExecution) (fits : index < UInt32.size) :
    (r.row level index x).index.toNat = index := by
  have small : min index (UInt32.size - 1) = index := by omega
  simp only [row, small]
  exact UInt32.toNat_ofNat_of_lt fits

theorem describes_leaf {provider : String} {requirement : Requirement} {config : Option ConfigSpec}
    (h : r.Becomes (.leaf provider requirement config) x) (parent : String) (index : Nat) :
    Placement.Describes ⟨parent, .leaf provider requirement config, 0, index⟩ (r.row 0 index x) where
  requirement := h.requirement
  displayName := by simp only [row, h.target]; rfl
  isFlow := by simp only [row, nested?_of_becomes_leaf h]; rfl
  providerId := by simp only [row, h.target]; rfl
  configured := configId_of_becomes h
  level := rfl
  index := row_index 0 index x

theorem describes_subflow {aliasName : String} {kind : FlowKind} {requirement : Requirement}
    {below : List Node} (h : r.Becomes (.subflow aliasName kind requirement below) x)
    {f : FlowRecord} (found : r.flow? aliasName = some f) (isKind : f.kind = kind) (parent : String)
    (index : Nat) :
    Placement.Describes ⟨parent, .subflow aliasName kind requirement below, 0, index⟩
      (r.row 0 index x) where
  requirement := h.requirement
  displayName := by simp only [row, h.target]; rfl
  isFlow := by simp only [row, nested?_of_becomes_subflow h]; rfl
  providerId := by
    simp only [row, h.target, nested?_of_becomes_subflow h, Node.target, Option.bind_some, found,
      Option.map_some, isKind]
    rfl
  configured := configId_of_becomes h
  level := rfl
  index := row_index 0 index x

/-- The report tells of the nodes at their places, in order. -/
theorem Shows.reports (h : r.Shows parent nodes xs report) (level index : Nat) :
    List.Forall₂ Placement.Reports (Node.placesAll parent level index nodes) report := by
  induction h generalizing level index with
  | nil => exact .nil
  | leaf becomes _ ih =>
    rw [Node.placesAll_leaf]
    exact .cons ⟨rfl, rfl, rfl, rfl⟩ (ih level (index + 1))
  | subflow becomes _ _ _ _ ihFirst ihRest =>
    rw [Node.placesAll_subflow]
    exact .cons ⟨rfl, rfl, rfl, rfl⟩
      (List.rel_append (ihFirst (level + 1) 0) (ihRest level (index + 1)))

theorem listing_of_shows {f : FlowRecord} (found : r.flow? parent = some f)
    (h : r.Shows parent nodes f.executions report) :
    r.listing parent = r.rowsOf 0 f.executions :=
  listing_eq_rowsOf (whole_of_shows found h).ends found

/-- The rows carry the identifiers of the report, in order. -/
theorem Shows.ids (h : r.Shows parent nodes xs report) (index : Nat) :
    (r.rowsOf index xs).map Execution.id = report.map BuiltNode.id := by
  induction h generalizing index with
  | nil => rfl
  | @leaf parent provider requirement config x nodes xs report becomes rest ih =>
    rw [rowsOf, rowsBelow, nested?_of_becomes_leaf becomes, Option.elim_none, List.singleton_append,
      List.map_cons, List.map_cons, ih]
    rfl
  | @subflow parent aliasName kind requirement below x f nodes xs inner report becomes found isKind
      first rest ihFirst ihRest =>
    have deeper : (Execution.id ∘ Execution.deeper) = Execution.id := rfl
    rw [rowsOf, rowsBelow, nested?_of_becomes_subflow becomes, Option.elim_some,
      listing_of_shows found first, List.map_append, List.map_cons, List.map_map, deeper, ihFirst,
      ihRest, List.map_cons, List.map_append]
    rfl

/-- The rows describe the places of the nodes that are shown, one by one. -/
theorem Shows.rows (h : r.Shows parent nodes xs report)
    (fits : Node.heightAll nodes ≤ UInt32.size) (index : Nat) :
    List.Forall₂ Placement.Describes (Node.placesAll parent 0 index nodes) (r.rowsOf index xs) := by
  induction h generalizing index with
  | nil => exact .nil
  | @leaf parent provider requirement config x nodes xs report becomes rest ih =>
    rw [Node.heightAll_leaf] at fits
    rw [Node.placesAll_leaf, rowsOf, rowsBelow, nested?_of_becomes_leaf becomes, Option.elim_none,
      List.singleton_append]
    exact .cons (describes_leaf becomes parent index) (ih (by omega) (index + 1))
  | @subflow parent aliasName kind requirement below x f nodes xs inner report becomes found isKind
      first rest ihFirst ihRest =>
    rw [Node.heightAll_subflow] at fits
    rw [Node.placesAll_subflow, Node.placesAll_succ, rowsOf, rowsBelow,
      nested?_of_becomes_subflow becomes, Option.elim_some, listing_of_shows found first,
      List.cons_append]
    refine .cons (describes_subflow becomes found isKind parent index)
      (List.rel_append ?_ (ihRest (by omega) (index + 1)))
    refine Placement.forall₂_deeper (ihFirst (by omega) 0) fun q hq => ?_
    have := Node.level_lt below hq
    omega

end RealmFlows

end RealmSetup
