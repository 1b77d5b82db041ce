import Mathlib.Data.List.Nodup
import Mathlib.Logic.Relation
import RealmSetup.Proofs.Flow.Changes

/-!
# The nesting of flows

A flow calls for others by their aliases.  `Ends` says that following the aliases down from a flow comes
to an end, and `Whole` that it does and finds a flow for every alias.  Neither holds of every realm, but
both hold of what a construction makes.

Listings go down at most as many levels as there are flows, and one more.  Where the nesting ends this
is deep enough (`Ends.endsWithin`), so that the listing of a flow is what its executions and the
listings of the flows they call for make up (`listing_eq_rowsOf`), and it depends on the flows that are
reached alone (`listing_congr`).
-/

namespace RealmSetup

/-- A row one level further down. -/
def Execution.deeper (e : Execution) : Execution := { e with level := e.level + 1 }

namespace RealmFlows

variable (r : RealmFlows)

/-! ## Following aliases down -/

/-- The aliases that the flow with an alias calls for. -/
def calledBy (a : String) : List String :=
  match r.flow? a with
  | none => []
  | some f => f.nested

/-- The flow with the first alias calls for the second. -/
def Calls (a b : String) : Prop := b ∈ r.calledBy a

/-- An alias is come to from another by following aliases down. -/
def Reaches (a b : String) : Prop := Relation.ReflTransGen r.Calls a b

/-- Following aliases down from an alias comes to an end. -/
def Ends (a : String) : Prop := Acc (fun b a => r.Calls a b) a

/-- Following aliases down from an alias ends, and every one of them names a flow. -/
inductive Whole : String → Prop
  /-- What a flow calls for is whole. -/
  | intro {a : String} {f : FlowRecord} (found : r.flow? a = some f)
      (nested : ∀ b ∈ f.nested, Whole b) : Whole a

variable {r} {r' : RealmFlows} {a b : String}

theorem calledBy_of_flow? {f : FlowRecord} (h : r.flow? a = some f) : r.calledBy a = f.nested := by
  rw [calledBy, h]

theorem calledBy_of_none (h : r.flow? a = none) : r.calledBy a = [] := by
  rw [calledBy, h]

theorem Calls.hasFlow (h : r.Calls a b) : r.hasFlow a = true := by
  rw [hasFlow_iff]
  cases found : r.flow? a with
  | some f => exact ⟨f, rfl⟩
  | none =>
    rw [Calls, calledBy_of_none found] at h
    exact absurd h List.not_mem_nil

theorem mem_nested_iff {f : FlowRecord} : b ∈ f.nested ↔ ∃ x ∈ f.executions, x.nested? = some b :=
  List.mem_filterMap

theorem Ends.below (h : r.Ends a) (called : r.Calls a b) : r.Ends b :=
  h.inv called

theorem Ends.reaches (h : r.Ends a) (reached : r.Reaches a b) : r.Ends b := by
  induction reached with
  | refl => exact h
  | tail _ called ih => exact ih.below called

/-- Where following aliases down ends, it does not come back. -/
theorem Ends.no_circle (h : r.Ends a) : ¬Relation.TransGen r.Calls a a := by
  intro circle
  have swapped : Relation.TransGen (fun b a => r.Calls a b) a a := Relation.transGen_swap.2 circle
  have never : ∀ c, Acc (Relation.TransGen fun b a => r.Calls a b) c →
      ¬Relation.TransGen (fun b a => r.Calls a b) c c := by
    intro c hc
    induction hc with
    | intro c _ ih => exact fun again => ih c again again
  exact never a h.transGen swapped

theorem Whole.ends (h : r.Whole a) : r.Ends a := by
  induction h with
  | @intro a f found nested ih =>
    refine Acc.intro a fun b called => ih b ?_
    rwa [Calls, calledBy_of_flow? found] at called

theorem Whole.hasFlow (h : r.Whole a) : r.hasFlow a = true := by
  obtain ⟨found, -⟩ := h
  rw [RealmFlows.hasFlow, found]
  rfl

theorem Whole.called (h : r.Whole a) (called : r.Calls a b) : r.Whole b := by
  obtain ⟨found, nested⟩ := h
  rw [Calls, calledBy_of_flow? found] at called
  exact nested b called

theorem Whole.reaches (h : r.Whole a) (reached : r.Reaches a b) : r.Whole b := by
  induction reached with
  | refl => exact h
  | tail _ called ih => exact ih.called called

/-- An end with a flow for every alias on the way is all that being whole means. -/
theorem whole_iff : r.Whole a ↔ r.Ends a ∧ ∀ b, r.Reaches a b → r.hasFlow b = true := by
  refine ⟨fun h => ⟨h.ends, fun b reached => (h.reaches reached).hasFlow⟩, ?_⟩
  rintro ⟨ends, there⟩
  induction ends with
  | intro a _ ih =>
    obtain ⟨f, found⟩ := hasFlow_iff.1 (there a .refl)
    refine .intro found fun b hb => ?_
    have called : r.Calls a b := by rwa [Calls, calledBy_of_flow? found]
    exact ih b called fun c reached => there c (.head called reached)

/-! ## How deep to go -/

/-- Following aliases down from an alias ends after fewer than `n` steps. -/
def EndsWithin (r : RealmFlows) : Nat → String → Prop
  | 0, _ => False
  | n + 1, a => ∀ b ∈ r.calledBy a, r.EndsWithin n b

theorem EndsWithin.ends {n : Nat} (h : r.EndsWithin n a) : r.Ends a := by
  induction n generalizing a with
  | zero => exact h.elim
  | succ n ih => exact Acc.intro a fun b called => ih (h b called)

/-- Different aliases of flows are no more than there are flows. -/
theorem length_le_of_hasFlow {names : List String} (nodup : names.Nodup)
    (there : ∀ a ∈ names, r.hasFlow a = true) : names.length ≤ r.flows.length := by
  have within : names ⊆ r.flows.map FlowRecord.aliasName :=
    fun a ha => hasFlow_iff_mem.1 (there a ha)
  have := nodup.length_le_of_subset within
  rwa [List.length_map] at this

/-- Where no alias is come back to, the aliases on the way down are all different, and there are only
so many flows. -/
theorem endsWithin_of_no_circle (h : ∀ v, r.Reaches a v → ¬Relation.TransGen r.Calls v v) :
    r.EndsWithin r.depthBound a := by
  -- By induction on the levels that are left, with the aliases that were passed on the way here.
  have along : ∀ n a (passed : List String), (∀ v, r.Reaches a v → ¬Relation.TransGen r.Calls v v) →
      passed.Nodup → (∀ v ∈ passed, r.hasFlow v = true ∧ Relation.TransGen r.Calls v a) →
      r.depthBound ≤ n + passed.length → r.EndsWithin n a := by
    intro n
    induction n with
    | zero =>
      intro a passed _ nodup above enough
      have few := length_le_of_hasFlow nodup fun v hv => (above v hv).1
      unfold depthBound at enough
      omega
    | succ n ih =>
      intro a passed h nodup above enough b called
      have new : a ∉ passed := fun again => h a .refl (above a again).2
      refine ih b (a :: passed) (fun v reached => h v (.head called reached)) (nodup.cons new) ?_ ?_
      · intro v hv
        rcases List.mem_cons.1 hv with rfl | hv
        · exact ⟨Calls.hasFlow called, .single called⟩
        · exact ⟨(above v hv).1, (above v hv).2.tail called⟩
      · rw [List.length_cons]
        omega
  exact along r.depthBound a [] h .nil (fun v hv => absurd hv List.not_mem_nil) (Nat.le_add_right _ _)

theorem Ends.endsWithin (h : r.Ends a) : r.EndsWithin r.depthBound a :=
  endsWithin_of_no_circle fun _ reached => (h.reaches reached).no_circle

theorem rowsFrom_of_none {n : Nat} {level : Nat} (h : r.flow? a = none) :
    r.rowsFrom n a level = [] := by
  cases n with
  | zero => rfl
  | succ n => rw [rowsFrom, h]

theorem rowsFrom_succ {f : FlowRecord} (h : r.flow? a = some f) (n level : Nat) :
    r.rowsFrom (n + 1) a level =
      f.executions.zipIdx.flatMap fun p =>
        r.row level p.2 p.1 :: p.1.nested?.elim [] fun b => r.rowsFrom n b (level + 1) := by
  rw [rowsFrom, h]
  refine List.flatMap_congr ?_
  rintro ⟨x, index⟩ -
  dsimp only
  cases x.nested? <;> rfl

/-- What `f.executions` call for is called for by the flow. -/
theorem calls_of_mem {f : FlowRecord} (h : r.flow? a = some f) {x : FlowExecution}
    (hx : x ∈ f.executions) (hb : x.nested? = some b) : r.Calls a b := by
  rw [Calls, calledBy_of_flow? h]
  exact mem_nested_iff.2 ⟨x, hx, hb⟩

/-- Below the end nothing is left to list. -/
theorem rowsFrom_eq {n m : Nat} (h : r.EndsWithin n a) (hnm : n ≤ m) (level : Nat) :
    r.rowsFrom m a level = r.rowsFrom n a level := by
  induction n generalizing a m level with
  | zero => exact h.elim
  | succ n ih =>
    obtain ⟨m, rfl⟩ : ∃ k, m = k + 1 := ⟨m - 1, by omega⟩
    cases found : r.flow? a with
    | none => rw [rowsFrom_of_none found, rowsFrom_of_none found]
    | some f =>
      rw [rowsFrom_succ found, rowsFrom_succ found]
      refine List.flatMap_congr fun p hp => ?_
      cases called : p.1.nested? with
      | none => rfl
      | some b =>
        have below := h b (calls_of_mem found (List.fst_mem_of_mem_zipIdx hp) called)
        rw [Option.elim_some, Option.elim_some, ih below (Nat.le_of_succ_le_succ hnm)]

theorem row_succ (level index : Nat) (x : FlowExecution) :
    r.row (level + 1) index x = (r.row level index x).deeper := by
  simp only [row, Execution.deeper, UInt32.ofNat_add]
  rfl

theorem rowsFrom_level_succ (n : Nat) (a : String) (level : Nat) :
    r.rowsFrom n a (level + 1) = (r.rowsFrom n a level).map Execution.deeper := by
  induction n generalizing a level with
  | zero => rfl
  | succ n ih =>
    cases found : r.flow? a with
    | none => rw [rowsFrom_of_none found, rowsFrom_of_none found, List.map_nil]
    | some f =>
      rw [rowsFrom_succ found, rowsFrom_succ found, List.map_flatMap]
      refine List.flatMap_congr fun p _ => ?_
      rw [row_succ, List.map_cons]
      cases p.1.nested? with
      | none => rfl
      | some b => rw [Option.elim_some, Option.elim_some, ih]

/-! ## Listings, one level at a time -/

/-- The rows below an execution. -/
def rowsBelow (r : RealmFlows) (x : FlowExecution) : List Execution :=
  x.nested?.elim [] fun b => (r.listing b).map Execution.deeper

/-- The rows of executions and of what is below them, the first execution standing at an index. -/
def rowsOf (r : RealmFlows) (index : Nat) : List FlowExecution → List Execution
  | [] => []
  | x :: xs => (r.row 0 index x :: r.rowsBelow x) ++ rowsOf r (index + 1) xs

theorem rowsOf_eq_flatMap (index : Nat) (xs : List FlowExecution) :
    r.rowsOf index xs = (xs.zipIdx index).flatMap fun p => r.row 0 p.2 p.1 :: r.rowsBelow p.1 := by
  induction xs generalizing index with
  | nil => rfl
  | cons x xs ih => rw [rowsOf, ih, List.zipIdx_cons, List.flatMap_cons]

theorem listing_of_none (h : r.flow? a = none) : r.listing a = [] :=
  rowsFrom_of_none h

/-- The listing of a flow whose nesting ends, in terms of the listings one level down. -/
theorem listing_eq_rowsOf (h : r.Ends a) {f : FlowRecord} (found : r.flow? a = some f) :
    r.listing a = r.rowsOf 0 f.executions := by
  rw [listing, rowsOf_eq_flatMap, depthBound, rowsFrom_succ found]
  refine List.flatMap_congr fun p hp => ?_
  unfold rowsBelow
  cases called : p.1.nested? with
  | none => rfl
  | some b =>
    have below : r.EndsWithin r.flows.length b :=
      h.endsWithin b (calls_of_mem found (List.fst_mem_of_mem_zipIdx hp) called)
    rw [Option.elim_some, Option.elim_some, rowsFrom_level_succ, listing, depthBound,
      rowsFrom_eq below (Nat.le_succ _)]

/-! ## What a listing depends on -/

theorem calls_congr (same : r'.flow? a = r.flow? a) : r'.Calls a b ↔ r.Calls a b := by
  unfold Calls calledBy
  rw [same]

theorem Ends.congr (h : r.Ends a) (same : ∀ b, r.Reaches a b → r'.flow? b = r.flow? b) :
    r'.Ends a := by
  induction h with
  | intro a _ ih =>
    refine Acc.intro a fun b called => ?_
    have before : r.Calls a b := (calls_congr (same a .refl)).1 called
    exact ih b before fun c reached => same c (.head before reached)

theorem row_congr {x : FlowExecution} (same : ∀ b, x.nested? = some b → r'.flow? b = r.flow? b)
    (level index : Nat) : r'.row level index x = r.row level index x := by
  unfold row
  cases called : x.nested? with
  | none => rfl
  | some b => simp only [Option.bind_some, same b called]

theorem rowsOf_congr {xs : List FlowExecution}
    (same : ∀ x ∈ xs, ∀ b, x.nested? = some b → r'.flow? b = r.flow? b ∧ r'.listing b = r.listing b)
    (index : Nat) : r'.rowsOf index xs = r.rowsOf index xs := by
  induction xs generalizing index with
  | nil => rfl
  | cons x xs ih =>
    have below : r'.rowsBelow x = r.rowsBelow x := by
      unfold rowsBelow
      cases called : x.nested? with
      | none => rfl
      | some b => rw [Option.elim_some, Option.elim_some, (same x List.mem_cons_self b called).2]
    rw [rowsOf, rowsOf, below, ih fun y hy => same y (List.mem_cons_of_mem x hy),
      row_congr fun b called => (same x List.mem_cons_self b called).1]

/-- A listing that ends depends on the flows that are reached alone. -/
theorem listing_congr (h : r.Ends a) (same : ∀ b, r.Reaches a b → r'.flow? b = r.flow? b) :
    r'.listing a = r.listing a := by
  induction h with
  | intro a hbelow ih =>
    have ends : r.Ends a := Acc.intro a hbelow
    have same_here := same a .refl
    cases found : r.flow? a with
    | none => rw [listing_of_none found, listing_of_none (same_here.trans found)]
    | some f =>
      rw [listing_eq_rowsOf ends found,
        listing_eq_rowsOf (ends.congr same) (same_here.trans found)]
      refine rowsOf_congr (fun x hx b called => ?_) 0
      have calls : r.Calls a b := calls_of_mem found hx called
      exact ⟨same b (.single calls), ih b calls fun c reached => same c (.head calls reached)⟩

/-! ## The aliases of a subtree -/

theorem self_mem_aliasesBelow (r : RealmFlows) (a : String) : a ∈ r.aliasesBelow a := by
  rw [aliasesBelow, depthBound, aliasesFrom]
  exact List.mem_cons_self

theorem aliasesFrom_succ (n : Nat) (a : String) :
    r.aliasesFrom (n + 1) a = a :: (r.calledBy a).flatMap fun b => r.aliasesFrom n b := by
  rw [aliasesFrom, calledBy]
  cases r.flow? a <;> rfl

theorem reaches_of_mem_aliasesFrom {n : Nat} (h : b ∈ r.aliasesFrom n a) : r.Reaches a b := by
  induction n generalizing a with
  | zero => exact absurd h List.not_mem_nil
  | succ n ih =>
    rw [aliasesFrom_succ] at h
    rcases List.mem_cons.1 h with rfl | h
    · exact .refl
    · obtain ⟨c, called, hb⟩ := List.mem_flatMap.1 h
      exact .head called (ih hb)

theorem mem_aliasesFrom {n : Nat} (h : r.EndsWithin n a) (reached : r.Reaches a b) :
    b ∈ r.aliasesFrom n a := by
  induction n generalizing a with
  | zero => exact h.elim
  | succ n ih =>
    rw [aliasesFrom_succ]
    rcases Relation.ReflTransGen.cases_head reached with rfl | ⟨c, called, rest⟩
    · exact List.mem_cons_self
    · exact List.mem_cons_of_mem a (List.mem_flatMap.2 ⟨c, called, ih (h c called) rest⟩)

/-- The aliases of a subtree are those that are reached, if its nesting ends. -/
theorem mem_aliasesBelow (h : r.Ends a) : b ∈ r.aliasesBelow a ↔ r.Reaches a b :=
  ⟨reaches_of_mem_aliasesFrom, mem_aliasesFrom h.endsWithin⟩

end RealmFlows

end RealmSetup
