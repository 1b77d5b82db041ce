import RealmSetup.Proofs.Flow.Places

/-!
# Finding children

A child is looked for among the rows directly in a flow.  Where a flow shows nodes whose keys differ
(authenticators of leaves, aliases of subflows), each of them is found (`resolve_of_shows`), and so is
the configuration of each leaf (`run_leafConfig_of_shows`).
-/

namespace RealmSetup

open Builder

/-- What an execution that carries a key calls for. -/
def MatchKey.target : MatchKey → Target
  | .provider id => .provider id
  | .displayName name => .flow name

theorem MatchKey.target_inj {key key' : MatchKey} : key.target = key'.target ↔ key = key' := by
  cases key <;> cases key' <;> simp [target]

theorem Node.target_key (n : Node) : n.key.target = n.target := by
  cases n <;> rfl

namespace RealmFlows

variable {r : RealmFlows} {parent : String} {nodes : List Node} {xs : List FlowExecution}
  {report : List BuiltNode} {n : Node} {x : FlowExecution}

/-! ## Rows directly in a flow -/

/-- The rows of executions without what is below them, the first execution standing at an index. -/
def rowsAt (r : RealmFlows) (index : Nat) : List FlowExecution → List Execution
  | [] => []
  | x :: xs => r.row 0 index x :: rowsAt r (index + 1) xs

theorem rowsAt_append (index : Nat) (xs ys : List FlowExecution) :
    r.rowsAt index (xs ++ ys) = r.rowsAt index xs ++ r.rowsAt (index + xs.length) ys := by
  induction xs generalizing index with
  | nil => rfl
  | cons x xs ih =>
    rw [List.cons_append, rowsAt, rowsAt, ih, List.length_cons, Nat.add_assoc,
      Nat.add_comm 1 xs.length, List.cons_append]

/-- Rows from further down do not stand directly in the flow. -/
theorem not_direct_of_describes {q : Placement} {e : Execution} (h : q.deeper.Describes e) :
    e.isDirectChild = false := by
  have level := h.level
  simp only [Execution.isDirectChild, beq_eq_false_iff_ne, ne_eq]
  intro zero
  rw [zero] at level
  simp [Placement.deeper] at level

theorem filter_direct_of_deeper {qs : List Placement} {es : List Execution}
    (h : List.Forall₂ Placement.Describes (qs.map Placement.deeper) es) :
    es.filter Execution.isDirectChild = [] := by
  induction qs generalizing es with
  | nil =>
    cases h
    rfl
  | cons q qs ih =>
    cases h with
    | cons describes rest =>
      rw [List.filter_cons_of_neg (by rw [not_direct_of_describes describes]; decide), ih rest]

/-- The rows directly in a flow are those of its executions. -/
theorem Shows.direct (h : r.Shows parent nodes xs report)
    (fits : Node.heightAll nodes ≤ UInt32.size) (index : Nat) :
    (r.rowsOf index xs).filter Execution.isDirectChild = r.rowsAt index xs := by
  have direct : ∀ index x, (r.row 0 index x).isDirectChild = true := fun _ _ => rfl
  induction h generalizing index with
  | nil => rfl
  | @leaf parent provider requirement config x nodes xs report becomes rest ih =>
    rw [Node.heightAll_leaf] at fits
    rw [rowsOf, rowsBelow, nested?_of_becomes_leaf becomes, Option.elim_none, List.singleton_append,
      List.filter_cons_of_pos (direct index x), rowsAt, ih (by omega)]
  | @subflow parent aliasName kind requirement below x f nodes xs inner report becomes found isKind
      first rest ihFirst ihRest =>
    rw [Node.heightAll_subflow] at fits
    have rows := Placement.forall₂_deeper (first.rows (by omega) 0) fun q hq => by
      have := Node.level_lt below hq
      omega
    rw [rowsOf, rowsBelow, nested?_of_becomes_subflow becomes, Option.elim_some,
      listing_of_shows found first, List.cons_append, List.filter_cons_of_pos (direct index x),
      List.filter_append, filter_direct_of_deeper rows, List.nil_append, rowsAt, ihRest (by omega)]

/-- A row carries a key if its execution calls for the same. -/
theorem accepts_row_iff_target (key : MatchKey) (level index : Nat) (x : FlowExecution) :
    key.accepts (r.row level index x) = true ↔ x.target = key.target := by
  cases key <;> cases called : x.target <;>
    simp [MatchKey.accepts, MatchKey.target, row, FlowExecution.nested?, called]

/-- A row carries the key of its node and no other. -/
theorem accepts_row_iff (h : r.Becomes n x) (level index : Nat) (key : MatchKey) :
    key.accepts (r.row level index x) = true ↔ key = n.key := by
  rw [accepts_row_iff_target, h.target, ← n.target_key, MatchKey.target_inj, eq_comm]

theorem Shows.becomes (h : r.Shows parent nodes xs report) : List.Forall₂ r.Becomes nodes xs := by
  induction h with
  | nil => exact .nil
  | leaf becomes _ ih => exact .cons becomes ih
  | subflow becomes _ _ _ _ _ ih => exact .cons becomes ih

theorem accepted_of_forall₂ (h : List.Forall₂ r.Becomes nodes xs) {key : MatchKey}
    (other : key ∉ nodes.map Node.key) (index : Nat) :
    (r.rowsAt index xs).filter key.accepts = [] := by
  induction h generalizing index with
  | nil => rfl
  | cons becomes _ ih =>
    rw [List.map_cons, List.mem_cons, not_or] at other
    have not_here : ¬key.accepts (r.row 0 index _) = true :=
      fun accepted => other.1 ((accepts_row_iff becomes 0 index key).1 accepted)
    rw [rowsAt, List.filter_cons_of_neg not_here, ih other.2]

/-- Executions that become nodes are split where the nodes are. -/
theorem exists_split_of_forall₂ {before after : List Node}
    (h : List.Forall₂ r.Becomes (before ++ after) xs) :
    ∃ ys zs, List.Forall₂ r.Becomes before ys ∧ List.Forall₂ r.Becomes after zs ∧ xs = ys ++ zs := by
  induction before generalizing xs with
  | nil => exact ⟨[], xs, .nil, h, rfl⟩
  | cons n before ih =>
    cases h with
    | cons here rest =>
      obtain ⟨ys, zs, first, second, rfl⟩ := ih rest
      exact ⟨_ :: ys, zs, .cons here first, second, rfl⟩

/-- Each of the nodes that a flow shows is found by its key, if their keys differ. -/
theorem resolve_of_shows {f : FlowRecord} (found : r.flow? parent = some f)
    (h : r.Shows parent nodes f.executions report) (fits : Node.heightAll nodes ≤ UInt32.size)
    (differ : (nodes.map Node.key).Nodup) (hn : n ∈ nodes) :
    ∃ x index, r.Becomes n x ∧ resolve parent (r.listing parent) n.key = .ok (r.row 0 index x) := by
  obtain ⟨before, after, rfl⟩ := List.append_of_mem hn
  obtain ⟨xs, ys, first, rest, split⟩ := exists_split_of_forall₂ h.becomes
  cases rest with
  | cons here later =>
    rename_i x ys
    rw [List.map_append, List.map_cons, List.nodup_middle, List.nodup_cons, List.mem_append,
      not_or] at differ
    refine ⟨x, xs.length, here, resolve_eq_ok_iff.2 ?_⟩
    have accepted : n.key.accepts (r.row 0 xs.length x) = true := (accepts_row_iff here _ _ _).2 rfl
    rw [listing_of_shows found h, ← List.filter_filter, List.filter_comm, h.direct fits, split,
      rowsAt_append, Nat.zero_add, rowsAt, List.filter_append, List.filter_cons_of_pos accepted,
      accepted_of_forall₂ first differ.1.1, accepted_of_forall₂ later differ.1.2, List.nil_append]

end RealmFlows

namespace FlowDesk

variable {d : FlowDesk} {parent : String} {nodes : List Node} {report : List BuiltNode}

/-- The configuration of a leaf that a flow shows is read. -/
theorem run_leafConfig_of_shows (realm : String) {f : FlowRecord}
    (found : d.realm.flow? parent = some f) (h : d.realm.Shows parent nodes f.executions report)
    (fits : Node.heightAll nodes ≤ UInt32.size) (differ : (nodes.map Node.key).Nodup)
    {provider : String} {requirement : Requirement} {spec : ConfigSpec}
    (hn : Node.leaf provider requirement (some spec) ∈ nodes) :
    ∃ config, run (leafConfig realm parent provider) d = (.ok config, d) ∧
      config.aliasName = spec.aliasName ∧ config.config = spec.settings := by
  obtain ⟨x, index, becomes, resolved⟩ := RealmFlows.resolve_of_shows found h fits differ hn
  obtain ⟨c, hc, kept⟩ := becomes.config
  refine ⟨⟨some c, spec.aliasName, spec.settings⟩, ?_, rfl, rfl⟩
  have there : d.realm.hasFlow parent = true := RealmFlows.hasFlow_iff.2 ⟨f, found⟩
  have read : d.serve (.getConfig c) = (.ok ⟨some c, spec.aliasName, spec.settings⟩, d) := by
    simp only [serve, getConfig, kept]
  refine (run_ask_ok (d.serve_listExecutions there)).trans ?_
  refine (run_bind_ok (congrArg (·, d) resolved)).trans ?_
  have bound : (d.realm.row 0 index x).configId = some c := hc
  rw [bound]
  exact read

/-! ## The new child -/

/-- In a flow that shows nodes, a node with another key can be created. -/
theorem takes_of_shows {f : FlowRecord} (found : d.realm.flow? parent = some f)
    (h : d.realm.Shows parent nodes f.executions report)
    (fits : Node.heightAll nodes ≤ UInt32.size) (differ : (nodes.map Node.key).Nodup) {n : Node}
    (new : n.key ∉ nodes.map Node.key) (free : n.Free d.realm)
    (own : parent ∉ Node.aliasesAll nodes) : d.Takes parent n := by
  have there : d.realm.hasFlow parent = true := RealmFlows.hasFlow_iff.2 ⟨f, found⟩
  refine ⟨there, free, ?_⟩
  have parent_found := flow?_added_parent found n
  have configs : (d.ground n).configs = d.realm.configs := by cases n <;> rfl
  -- Before its requirement is set, a new node shows as one that is disabled and has nothing below it.
  have before : (d.added parent n).realm.Shows parent nodes f.executions report := by
    refine h.congr (fun a ha => ?_) fun c config kept => ?_
    · have other : a ≠ parent := fun same => own (same ▸ ha)
      rw [flow?_added, if_neg other, flow?_ground_of_hasFlow (h.hasFlow ha)]
    · exact configs ▸ kept
  have shows : ∃ bare report', bare.key = n.key ∧ Node.heightAll [bare] = 1 ∧
      (d.added parent n).realm.Shows parent [bare] [d.sprout n] report' := by
    cases n with
    | leaf provider requirement config =>
      exact ⟨.leaf provider .disabled none, _, rfl, rfl, .leaf ⟨rfl, rfl, rfl⟩ (.nil parent)⟩
    | subflow aliasName kind requirement below =>
      have new_found := flow?_added_subflow there kind requirement below free
      exact ⟨.subflow aliasName kind .disabled [], _, rfl, rfl,
        .subflow ⟨rfl, rfl, rfl⟩ new_found rfl (.nil aliasName) (.nil parent)⟩
  obtain ⟨bare, report', same_key, height, shows⟩ := shows
  have all := before.append shows
  have fits' : Node.heightAll (nodes ++ [bare]) ≤ UInt32.size := by
    rw [Node.heightAll_append, height]
    exact Nat.max_le.2 ⟨fits, by decide⟩
  have differ' : ((nodes ++ [bare]).map Node.key).Nodup := by
    rw [List.map_append, List.map_singleton, same_key, List.nodup_append]
    refine ⟨differ, by simp, ?_⟩
    rintro key hkey key' hkey' rfl
    rw [List.mem_singleton.1 hkey'] at hkey
    exact new hkey
  obtain ⟨x, index, -, resolved⟩ := RealmFlows.resolve_of_shows parent_found all fits' differ'
    (List.mem_append_right _ (List.mem_singleton_self bare))
  exact ⟨_, same_key ▸ resolved⟩

end FlowDesk

end RealmSetup
