import RealmSetup.Proofs.Flow.Finding
import RealmSetup.Proofs.Flow.Shapes

/-!
# The new node is the one that is found

A creation yields no identifier, so the new node is looked for by its key among the rows directly in its
parent.  Nothing else is ever taken for it.  Rows from further down carry a level above zero
(`level_of_mem_rowsFrom`), so that the rows directly in a flow are those of its executions
(`filter_direct_listing`); of these a key accepts the ones that call for what the new node calls for
(`accepts_row_iff_target`); hence one more is accepted than there were before (`run_creation_eq`), and if
there were none before, it is the new one.

The level of a row is a number of 32 bits.  `Listable` says that the walk below a flow ends before the
levels run out; that is all a listing needs to come to an end.
-/

namespace RealmSetup

open Builder

/-- The alias of a subflow that is looked for names no flow yet. -/
def MatchKey.Free (r : RealmFlows) : MatchKey → Prop
  | .provider _ => True
  | .displayName name => ¬r.hasFlow name = true

theorem Node.free_key (r : RealmFlows) (n : Node) : n.key.Free r ↔ n.Free r := by
  cases n <;> exact Iff.rfl

/-- How many executions of a flow call for something. -/
def FlowRecord.callers (f : FlowRecord) (t : Target) : Nat :=
  f.executions.countP fun x => x.target = t

namespace RealmFlows

variable {r r' : RealmFlows} {a parent : String} {f : FlowRecord}

/-- The walk below an alias ends before the levels of rows run out. -/
def Listable (r : RealmFlows) (a : String) : Prop := ∃ levels ≤ UInt32.size, r.EndsWithin levels a

/-- Flows whose nesting ends can be listed, unless there are as many as a row has levels. -/
theorem Ends.listable (h : r.Ends a) (few : r.flows.length < UInt32.size) : r.Listable a :=
  ⟨r.depthBound, few, h.endsWithin⟩

instance decidableEndsWithin (r : RealmFlows) : ∀ n a, Decidable (r.EndsWithin n a)
  | 0, _ => .isFalse id
  | n + 1, a =>
    have := r.decidableEndsWithin n
    inferInstanceAs (Decidable (∀ b ∈ r.calledBy a, r.EndsWithin n b))

/-! ## Rows directly in a flow -/

/-- A walk gives every row at least the level it begins with, and less than where it ends. -/
theorem level_of_mem_rowsFrom {n m level : Nat} {e : Execution} (ends : r.EndsWithin n a)
    (fits : level + n ≤ UInt32.size) (h : e ∈ r.rowsFrom m a level) :
    level ≤ e.level.toNat ∧ e.level.toNat < level + n := by
  induction m generalizing n a level with
  | zero => exact absurd h List.not_mem_nil
  | succ m ih =>
    cases n with
    | zero => exact ends.elim
    | succ n =>
      cases found : r.flow? a with
      | none =>
        rw [rowsFrom_of_none found] at h
        exact absurd h List.not_mem_nil
      | some f =>
        rw [rowsFrom_succ found] at h
        obtain ⟨p, hp, h⟩ := List.mem_flatMap.1 h
        rcases List.mem_cons.1 h with rfl | h
        · have here : (r.row level p.2 p.1).level.toNat = level :=
            UInt32.toNat_ofNat_of_lt' (by omega)
          omega
        · cases called : p.1.nested? with
          | none =>
            rw [called] at h
            exact absurd h List.not_mem_nil
          | some b =>
            rw [called] at h
            have below := ends b (calls_of_mem found (List.fst_mem_of_mem_zipIdx hp) called)
            have deeper := ih below (by omega) h
            omega

/-- The rows directly in a flow are those of its executions. -/
theorem filter_direct_listing (listable : r.Listable a) (found : r.flow? a = some f) :
    (r.listing a).filter Execution.isDirectChild =
      f.executions.zipIdx.map fun p => r.row 0 p.2 p.1 := by
  obtain ⟨_ | n, few, ends⟩ := listable
  · exact ends.elim
  rw [listing, depthBound, rowsFrom_succ found, List.filter_flatMap, List.map_eq_flatMap]
  refine List.flatMap_congr fun p hp => ?_
  have direct : (r.row 0 p.2 p.1).isDirectChild = true := rfl
  rw [List.filter_cons_of_pos direct, List.cons_inj_right, List.filter_eq_nil_iff]
  cases called : p.1.nested? with
  | none => simp
  | some b =>
    intro e below
    have deeper := ends b (calls_of_mem found (List.fst_mem_of_mem_zipIdx hp) called)
    have level := (level_of_mem_rowsFrom deeper (by omega) below).1
    intro zero
    rw [eq_of_beq zero] at level
    simp at level

/-- As many rows directly in a flow carry a key as executions of the flow call for the same. -/
theorem length_filter_listing (listable : r.Listable a) (found : r.flow? a = some f)
    (key : MatchKey) :
    ((r.listing a).filter fun e => e.isDirectChild && key.accepts e).length =
      f.callers key.target := by
  have carries : (fun p : FlowExecution × Nat => key.accepts (r.row 0 p.2 p.1)) =
      (fun x => decide (x.target = key.target)) ∘ Prod.fst := by
    funext p
    rw [Bool.eq_iff_iff, accepts_row_iff_target, Function.comp_apply, decide_eq_true_iff]
  calc ((r.listing a).filter fun e => e.isDirectChild && key.accepts e).length
      = ((f.executions.zipIdx.map fun p => r.row 0 p.2 p.1).filter key.accepts).length := by
        rw [← filter_direct_listing listable found, List.filter_filter]
        simp only [Bool.and_comm]
    _ = f.executions.zipIdx.countP fun p => key.accepts (r.row 0 p.2 p.1) := by
        rw [← List.countP_eq_length_filter, List.countP_map]
        rfl
    _ = f.callers key.target := by
        rw [carries, ← List.countP_map, List.zipIdx_map_fst]
        rfl

/-! ## What the walk goes through after an addition -/

/-- A walk that ends goes through the same aliases where they call for the same. -/
theorem EndsWithin.congr {n : Nat} (h : r.EndsWithin n a)
    (same : ∀ b, r.Reaches a b → r'.calledBy b = r.calledBy b) : r'.EndsWithin n a := by
  induction n generalizing a with
  | zero => exact h.elim
  | succ n ih =>
    intro b called
    rw [same a .refl] at called
    exact ih (h b called) fun c reached => same c (.head called reached)

theorem EndsWithin.mono {n m : Nat} (h : r.EndsWithin n a) (more : n ≤ m) : r.EndsWithin m a := by
  induction n generalizing a m with
  | zero => exact h.elim
  | succ n ih =>
    obtain ⟨m, rfl⟩ : ∃ k, m = k + 1 := ⟨m - 1, by omega⟩
    exact fun b called => ih (h b called) (by omega)

end RealmFlows

section Resolve

variable {parent : String} {rows : List Execution} {key : MatchKey}

/-- A key that several rows directly in a flow carry is ambiguous. -/
theorem resolve_of_two_le
    (several : 2 ≤ (rows.filter fun e => e.isDirectChild && key.accepts e).length) :
    resolve parent rows key = .error (.ambiguousResolution parent key.text
      (rows.filter fun e => e.isDirectChild && key.accepts e).length) := by
  unfold resolve
  generalize (rows.filter fun e => e.isDirectChild && key.accepts e) = found at several
  match found with
  | [] => simp at several
  | [_] => simp at several
  | _ :: _ :: _ => rfl

theorem exists_resolve_of_length_eq_one (parent : String)
    (one : (rows.filter fun e => e.isDirectChild && key.accepts e).length = 1) :
    ∃ row, resolve parent rows key = .ok row := by
  obtain ⟨row, only⟩ := List.length_eq_one_iff.1 one
  exact ⟨row, resolve_eq_ok_iff.2 only⟩

end Resolve

namespace FlowDesk

variable {d : FlowDesk} {parent a : String} {n : Node} {f : FlowRecord}

/-! ## The realm with a new node -/

/-- The flow of a new subflow calls for nothing, like an alias without a flow. -/
theorem calledBy_ground (n : Node) (a : String) : (d.ground n).calledBy a = d.realm.calledBy a := by
  cases n with
  | leaf => rfl
  | subflow aliasName =>
    unfold RealmFlows.calledBy
    rw [ground, RealmFlows.flow?_addFlow]
    cases d.realm.flow? a with
    | some f => rfl
    | none =>
      rw [Option.none_or]
      by_cases same : aliasName = a
      · rw [if_pos same]
        rfl
      · rw [if_neg same]

theorem calledBy_added_of_ne (other : a ≠ parent) :
    (d.added parent n).realm.calledBy a = d.realm.calledBy a := by
  refine Eq.trans ?_ (calledBy_ground n a)
  unfold RealmFlows.calledBy
  rw [flow?_added, if_neg other]

theorem calledBy_added_parent (there : d.realm.hasFlow parent = true) :
    (d.added parent n).realm.calledBy parent = d.realm.calledBy parent ++ n.ownAlias := by
  obtain ⟨f, found⟩ := RealmFlows.hasFlow_iff.1 there
  rw [RealmFlows.calledBy_of_flow? found, RealmFlows.calledBy_of_flow? (flow?_added_parent found n),
    FlowRecord.nested, List.filterMap_append]
  cases n <;> rfl

/-- A flow that can be listed still can when a node was added to it. -/
theorem listable_added (there : d.realm.hasFlow parent = true) (free : n.Free d.realm)
    (listable : d.realm.Listable parent) : (d.added parent n).realm.Listable parent := by
  obtain ⟨_ | levels, few, ends⟩ := listable
  · exact ends.elim
  have no_circle := ends.ends.no_circle
  refine ⟨max levels 1 + 1, Nat.succ_le_of_lt (Nat.max_lt.2 ⟨few, by decide⟩), fun b called => ?_⟩
  rw [calledBy_added_parent there] at called
  rcases List.mem_append.1 called with called | new
  · -- What was called for does not lead back to the parent, so that nothing below it has changed.
    have before : (d.added parent n).realm.EndsWithin levels b := by
      refine (ends b called).congr fun c reached => calledBy_added_of_ne ?_
      rintro rfl
      exact no_circle (.head' called reached)
    exact before.mono (Nat.le_max_left _ _)
  · cases n with
    | leaf => exact absurd new List.not_mem_nil
    | subflow aliasName kind requirement below =>
      obtain rfl := List.mem_singleton.1 new
      have other : b ≠ parent := fun same => free (same ▸ there)
      have empty : (d.added parent (.subflow b kind requirement below)).realm.EndsWithin 1 b := by
        intro c called
        rw [calledBy_added_of_ne other,
          RealmFlows.calledBy_of_none (RealmFlows.not_hasFlow.1 free)] at called
        exact absurd called List.not_mem_nil
      exact empty.mono (Nat.le_max_right _ _)

/-! ## Creations -/

theorem callers_added (f : FlowRecord) :
    FlowRecord.callers { f with executions := f.executions ++ [d.sprout n] } n.target =
      f.callers n.target + 1 := by
  simp [FlowRecord.callers, sprout]

/-- A creation finds the new node if its key is new to the flow, and is ambiguous otherwise. -/
theorem run_creation_eq (realm : String) (found : d.realm.flow? parent = some f)
    (free : n.Free d.realm) (listable : d.realm.Listable parent) :
    run (creation realm parent n) d =
      (if f.callers n.target = 0 then .ok (d.nextId n)
        else .error (.ambiguousResolution parent n.key.text (f.callers n.target + 1)),
        d.added parent n) := by
  have there : d.realm.hasFlow parent = true := RealmFlows.hasFlow_iff.2 ⟨f, found⟩
  have carried := RealmFlows.length_filter_listing (listable_added there free listable)
    (flow?_added_parent found n) n.key
  rw [n.target_key, callers_added] at carried
  rw [run_creation realm there free]
  split
  · next none =>
    obtain ⟨row, resolved⟩ := exists_resolve_of_length_eq_one parent (carried.trans (by rw [none]))
    rw [resolved, Except.map, id_of_resolve_added there resolved]
  · next some =>
    rw [resolve_of_two_le (by omega), carried]
    rfl

/-- Nothing is changed in a flow that is not there. -/
theorem run_creation_absent (realm : String) (free : n.Free d.realm)
    (absent : ¬d.realm.hasFlow parent = true) :
    (run (creation realm parent n) d).1 = .error (notFound parent) ∧
      (run (creation realm parent n) d).2.realm = d.realm := by
  cases n with
  | leaf provider requirement config =>
    rw [creation, run_addLeaf_error d realm provider absent]
    exact ⟨rfl, rfl⟩
  | subflow aliasName kind requirement below =>
    have served : d.serve (.addSubflow parent aliasName kind) = (.error (notFound parent), d) := by
      have taken : ¬d.realm.hasFlow aliasName = true := free
      simp [serve, addSubflow, taken, absent, settle]
    rw [creation, Builder.addSubflow, run_observe, run_ask_error served]
    exact ⟨rfl, rfl⟩

/-- An alias that is taken is refused, whether or not the flow is there. -/
theorem run_addSubflow_taken (realm : String) {aliasName : String} (kind : FlowKind)
    (taken : d.realm.hasFlow aliasName = true) :
    run (Builder.addSubflow realm parent aliasName kind) d =
      (.error (.remoteRejected "POST" ("flows/" ++ parent ++ "/executions/flow") 409
        ("New flow alias name already exists: " ++ aliasName)), d) := by
  have served : d.serve (.addSubflow parent aliasName kind) = (.error (.remoteRejected "POST"
      ("flows/" ++ parent ++ "/executions/flow") 409
      ("New flow alias name already exists: " ++ aliasName)), d) := by
    simp [serve, addSubflow, taken, settle]
  rw [Builder.addSubflow, run_observe, run_ask_error served]

/-- What becomes of a creation under a parent when what was created is looked for by a key: its result
with the flows before and after it. -/
structure Attributes (unused : String → Prop) (before after : RealmFlows) (parent : String)
    (key : MatchKey) (result : Except Error NodeId) : Prop where
  /-- A subflow whose alias names a flow is refused, and no flow is changed. -/
  taken : ∀ aliasName, key = .displayName aliasName → before.hasFlow aliasName = true →
    result = .error (.remoteRejected "POST" ("flows/" ++ parent ++ "/executions/flow") 409
      ("New flow alias name already exists: " ++ aliasName)) ∧ after = before
  /-- Otherwise a parent that is not there is refused, and no flow is changed. -/
  absent : key.Free before → ¬before.hasFlow parent = true →
    result = .error (notFound parent) ∧ after = before
  /-- Otherwise executions of the parent that carry the key already make it ambiguous. -/
  ambiguous : key.Free before → ∀ f, before.flow? parent = some f → before.Listable parent →
    0 < f.callers key.target →
    result = .error (.ambiguousResolution parent key.text (f.callers key.target + 1))
  /-- Otherwise the identifier was unused and is that of the execution that was added last, which calls
  for the authenticator, or for a flow that was created with it. -/
  found : key.Free before → ∀ f, before.flow? parent = some f → before.Listable parent →
    f.callers key.target = 0 →
    ∃ x : FlowExecution, result = .ok ⟨x.id⟩ ∧ unused x.id ∧ x.target = key.target ∧
      after.flow? parent = some { f with executions := f.executions ++ [x] } ∧
      ∀ aliasName, key = .displayName aliasName → ∃ g, after.flow? aliasName = some g ∧
        g.id ∉ before.flowIds ∧ g.executions = []

theorem Numbered.attributes_creation (h : d.Numbered) (realm parent : String) (n : Node)
    {unused : String → Prop} (next : unused (d.nextId n).text) :
    Attributes unused d.realm (FlowDesk.run (creation realm parent n) d).2.realm parent n.key
      (FlowDesk.run (creation realm parent n) d).1 := by
  constructor
  · intro aliasName looked there
    cases n with
    | leaf => cases looked
    | subflow =>
      cases looked
      rw [creation, run_addSubflow_taken realm _ there]
      exact ⟨rfl, rfl⟩
  · exact fun free absent => run_creation_absent realm ((n.free_key _).1 free) absent
  · intro free f found listable some
    rw [n.target_key] at some ⊢
    rw [run_creation_eq realm found ((n.free_key _).1 free) listable, if_neg (by omega)]
  · intro free f found listable none
    rw [n.target_key] at none ⊢
    rw [run_creation_eq realm found ((n.free_key _).1 free) listable, if_pos none]
    refine ⟨d.sprout n, rfl, next, rfl, flow?_added_parent found n, ?_⟩
    intro aliasName looked
    cases n with
    | leaf => cases looked
    | subflow aliasName kind requirement below =>
      cases looked
      have there : d.realm.hasFlow parent = true := RealmFlows.hasFlow_iff.2 ⟨f, found⟩
      exact ⟨d.newFlow aliasName kind, flow?_added_subflow there kind requirement below free,
        h.fresh_flow (Nat.lt_succ_self _), rfl⟩

end FlowDesk

/-! ## Servers -/

namespace MemoryServer

variable {s : MemoryServer}

theorem Reached.attributes_creation (h : s.Reached) (realm parent : String) (n : Node) :
    FlowDesk.Attributes (s.Unused RealmFlows.executionIds realm) (s.desk realm).realm
      ((s.run (FlowDesk.creation realm parent n)).2.desk realm).realm parent n.key
      (s.run (FlowDesk.creation realm parent n)).1 := by
  have within : Within realm (FlowDesk.creation realm parent n) := by
    cases n with
    | leaf => exact (asks_addLeaf _ _).within
    | subflow => exact (asks_addSubflow _ _ _).within
  obtain ⟨result, left⟩ := run_eq within s
  rw [result, left]
  have more : 0 < n.numbers := by cases n <;> simp [Node.numbers]
  exact (h.numbered realm).attributes_creation realm parent n
    (h.unused_execution (isNumbered_identifier (by omega) (Nat.le_refl _)))

/-- Whatever requests were made before, what a builder creates is never taken for something else: the
creation is refused, or it is ambiguous just where others carry the same key, or it is found. -/
theorem run_add_attributes (h : s.Reached) (realm parent : String) :
    (∀ provider, FlowDesk.Attributes (s.Unused RealmFlows.executionIds realm) (s.desk realm).realm
      ((s.run (addLeaf realm parent provider)).2.desk realm).realm parent (.provider provider)
      (s.run (addLeaf realm parent provider)).1) ∧
    ∀ aliasName kind, FlowDesk.Attributes (s.Unused RealmFlows.executionIds realm)
      (s.desk realm).realm ((s.run (addSubflow realm parent aliasName kind)).2.desk realm).realm
      parent (.displayName aliasName) (s.run (addSubflow realm parent aliasName kind)).1 := by
  refine ⟨fun provider => ?_, fun aliasName kind => ?_⟩
  · exact h.attributes_creation realm parent (.leaf provider .disabled none)
  · exact h.attributes_creation realm parent (.subflow aliasName kind .disabled [])

/-- The stock entry point when the subflow it calls for was deleted. -/
def formless : MemoryServer := (start true).after [⟨"acme", .deleteFlow "flow-4"⟩]

/-- The reference that was left makes a new subflow of its name ambiguous, but not a new leaf. -/
theorem run_add_attributes_formless :
    formless.Reached ∧
      (formless.run (addSubflow "acme" "browser" "forms" .basic)).1 =
        .error (.ambiguousResolution "browser" "display name `forms`" 2) ∧
      ∃ x : FlowExecution,
        (formless.run (addLeaf "acme" "browser" "auth-otp-form")).1 = .ok ⟨x.id⟩ ∧
        formless.Unused RealmFlows.executionIds "acme" x.id := by
  have reached : formless.Reached := (Reached.start true).after _
  have found : (formless.desk "acme").realm.flow? "browser" = some (FlowDesk.stockBrowser 0) := by
    decide +kernel
  have free : ¬(formless.desk "acme").realm.hasFlow "forms" = true := by decide +kernel
  have listable : (formless.desk "acme").realm.Listable "browser" :=
    ⟨2, by decide, by decide +kernel⟩
  obtain ⟨leaf, subflow⟩ := run_add_attributes reached "acme" "browser"
  obtain ⟨x, resolved, unused, -⟩ :=
    (leaf "auth-otp-form").found trivial _ found listable (by decide +kernel)
  exact ⟨reached, (subflow "forms" .basic).ambiguous free _ found listable (by decide +kernel),
    x, resolved, unused⟩

end MemoryServer

end RealmSetup
