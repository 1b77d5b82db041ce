import Mathlib.Data.List.TakeWhile
import RealmSetup.Proofs.Flow.Attribution
import RealmSetup.Proofs.Flow.CopyListings

/-!
# The nesting in a listing

A listing is a flat list, and those who read it take the levels of its rows for a tree: below a row stand
the rows that follow it up to the next one that is no deeper.  This is the tree that was walked.  The rows
at level zero are the executions of the listed flow, and below the row of a subflow stand the rows of its
flow, as far down as their place asks for (`EndsWithin.showsBelow`).

`RealmFlows.Branches` says what hangs below a flow by following aliases down, with no levels, and
`Branch.ofRows` reads branches off any rows by their levels, with no realm.  Of a listing it reads the
branches of the listed flow (`EndsWithin.branches`), and a flow has no others (`Branches.unique`), so that
the nesting is told by the rows alone (`listing_shows_nesting`).
-/

namespace RealmSetup

/-! ## Rows below a row -/

namespace Execution

variable {e above : Execution}

/-- Whether a row stands less deep than another. -/
def isAbove (above e : Execution) : Bool := above.level < e.level

/-- A row of the flow that the row `above` is about, where it stands below that row. -/
def under (above e : Execution) : Execution := { e with level := e.level + (above.level + 1) }

/-- The execution that a row lists. -/
def listed (e : Execution) : FlowExecution where
  id := e.id.text
  requirement := e.requirement
  target := if e.isFlow then .flow e.displayName else .provider e.displayName
  configId := e.configId

/-- A row can be moved down by one level. -/
def HasRoom (e : Execution) : Prop := e.level.toNat + 1 < UInt32.size

theorem isAbove_iff : above.isAbove e = true ↔ above.level.toNat < e.level.toNat := by
  rw [isAbove, decide_eq_true_iff, UInt32.lt_iff_toNat_lt]

theorem toNat_level_deeper (room : e.HasRoom) : e.deeper.level.toNat = e.level.toNat + 1 := by
  rw [deeper, UInt32.toNat_add, UInt32.toNat_one]
  exact Nat.mod_eq_of_lt room

theorem isAbove_deeper (room : above.HasRoom) (room' : e.HasRoom) :
    above.deeper.isAbove e.deeper = above.isAbove e := by
  rw [Bool.eq_iff_iff, isAbove_iff, isAbove_iff, toNat_level_deeper room, toNat_level_deeper room',
    Nat.add_lt_add_iff_right]

/-- What stands below a row was moved down without running out of levels. -/
theorem toNat_level_under (h : above.isAbove (above.under e) = true) :
    (above.under e).level.toNat = e.level.toNat + (above.level.toNat + 1) := by
  rw [isAbove_iff] at h
  simp only [under, UInt32.toNat_add, UInt32.toNat_one] at h ⊢
  have := e.level.toNat_lt
  have := above.level.toNat_lt
  omega

theorem under_deeper (above e : Execution) : above.deeper.under e = (above.under e).deeper := by
  simp only [under, deeper, UInt32.add_assoc]

theorem takeWhile_map_deeper {rows : List Execution} (room : above.HasRoom)
    (rooms : ∀ e ∈ rows, e.HasRoom) :
    (rows.map deeper).takeWhile above.deeper.isAbove =
      (rows.takeWhile above.isAbove).map deeper := by
  induction rows with
  | nil => rfl
  | cons e rows ih =>
    rw [List.forall_mem_cons] at rooms
    rw [List.map_cons, List.takeWhile_cons, List.takeWhile_cons, isAbove_deeper room rooms.1,
      ih rooms.2]
    split <;> rfl

theorem dropWhile_map_deeper {rows : List Execution} (room : above.HasRoom)
    (rooms : ∀ e ∈ rows, e.HasRoom) :
    (rows.map deeper).dropWhile above.deeper.isAbove =
      (rows.dropWhile above.isAbove).map deeper := by
  -- The rows up to there are the same, so that those after them are.
  have whole : (rows.map deeper).takeWhile above.deeper.isAbove ++
      (rows.map deeper).dropWhile above.deeper.isAbove =
        (rows.takeWhile above.isAbove).map deeper ++ (rows.dropWhile above.isAbove).map deeper := by
    rw [List.takeWhile_append_dropWhile, ← List.map_append, List.takeWhile_append_dropWhile]
  rw [takeWhile_map_deeper room rooms] at whole
  exact List.append_cancel_left whole

end Execution

/-! ## Branches -/

/-- An execution with all that hangs below it. -/
inductive Branch where
  | node (x : FlowExecution) (below : List Branch)

namespace Branch

/-- The branches that rows show by their levels: what hangs below a row is shown by the rows after it, up
to the next one that is no deeper. -/
def ofRows : List Execution → List Branch
  | [] => []
  | e :: rows =>
    .node e.listed (ofRows (rows.takeWhile e.isAbove)) :: ofRows (rows.dropWhile e.isAbove)
termination_by rows => rows.length
decreasing_by
  · exact Nat.lt_succ_of_le (List.takeWhile_sublist _).length_le
  · exact Nat.lt_succ_of_le (List.dropWhile_sublist _).length_le

/-- Only the order of the levels counts. -/
theorem ofRows_map_deeper {rows : List Execution} (rooms : ∀ e ∈ rows, e.HasRoom) :
    ofRows (rows.map Execution.deeper) = ofRows rows := by
  induction rows using ofRows.induct with
  | case1 => rfl
  | case2 e rows ihTake ihDrop =>
    rw [List.forall_mem_cons] at rooms
    have same : e.deeper.listed = e.listed := rfl
    rw [List.map_cons, ofRows, ofRows, Execution.takeWhile_map_deeper rooms.1 rooms.2,
      Execution.dropWhile_map_deeper rooms.1 rooms.2, same,
      ihTake fun e he => rooms.2 e ((List.takeWhile_sublist _).mem he),
      ihDrop fun e he => rooms.2 e ((List.dropWhile_sublist _).mem he)]

end Branch

namespace RealmFlows

variable {r : RealmFlows} {a : String} {n : Nat} {f : FlowRecord} {x : FlowExecution}
  {xs : List FlowExecution} {rows : List Execution}

/-- The branches that hang below a flow, however deep they go. -/
inductive Branches (r : RealmFlows) : String → List Branch → Prop
  /-- An alias that names no flow has none. -/
  | absent {a : String} (missing : r.flow? a = none) : r.Branches a []
  /-- Each execution is a branch, with those of the flow it calls for below it. -/
  | flow {a : String} {f : FlowRecord} (found : r.flow? a = some f) (below : String → List Branch)
      (nested : ∀ b ∈ f.nested, r.Branches b (below b)) :
      r.Branches a (f.executions.map fun x => .node x (x.nested?.elim [] below))

theorem Branches.unique {branches branches' : List Branch} (h : r.Branches a branches)
    (h' : r.Branches a branches') : branches = branches' := by
  induction h generalizing branches' with
  | absent missing =>
    cases h' with
    | absent => rfl
    | flow found => cases missing.symm.trans found
  | @flow a f found below nested ih =>
    cases h' with
    | absent missing => cases missing.symm.trans found
    | flow found' below' nested' =>
      cases found.symm.trans found'
      refine List.map_congr_left fun x hx => ?_
      cases called : x.nested? with
      | none => rfl
      | some b =>
        have hb : b ∈ f.nested := mem_nested_iff.2 ⟨x, hx, called⟩
        rw [Option.elim_some, Option.elim_some, ih b hb (nested' b hb)]

/-! ## The rows of a flow -/

theorem listed_row (level index : Nat) (x : FlowExecution) : (r.row level index x).listed = x := by
  obtain ⟨id, requirement, target, configId⟩ := x
  cases target <;> rfl

theorem subflowAlias_row (level index : Nat) (x : FlowExecution) :
    (r.row level index x).subflowAlias = x.nested? := by
  obtain ⟨id, requirement, target, configId⟩ := x
  cases target <;> rfl

theorem row_under (index : Nat) (x : FlowExecution) (e : Execution) :
    (r.row 0 index x).under e = e.deeper := rfl

/-- Rows directly in a flow are no deeper than any. -/
theorem not_isAbove_row (above : Execution) (index : Nat) (x : FlowExecution) :
    ¬above.isAbove (r.row 0 index x) = true := by
  rw [Execution.isAbove_iff]
  exact Nat.not_lt_zero _

/-- Whatever comes before the rows of a flow, none of these is taken for a row below. -/
theorem takeWhile_append_rowsOf (above : Execution) (rows : List Execution) (index : Nat)
    (xs : List FlowExecution) :
    (rows ++ r.rowsOf index xs).takeWhile above.isAbove = rows.takeWhile above.isAbove := by
  induction rows with
  | nil =>
    cases xs with
    | nil => rfl
    | cons x xs =>
      rw [List.nil_append, rowsOf, List.cons_append,
        List.takeWhile_cons_of_neg (not_isAbove_row above index x), List.takeWhile_nil]
  | cons e rows ih => rw [List.cons_append, List.takeWhile_cons, List.takeWhile_cons, ih]

theorem dropWhile_rowsOf (above : Execution) (index : Nat) (xs : List FlowExecution) :
    (r.rowsOf index xs).dropWhile above.isAbove = r.rowsOf index xs := by
  cases xs with
  | nil => rfl
  | cons x xs =>
    rw [rowsOf, List.cons_append, List.dropWhile_cons_of_neg (not_isAbove_row above index x)]

/-- There is a level left below what an execution calls for. -/
def HasRoomBelow (r : RealmFlows) (x : FlowExecution) : Prop :=
  ∀ b, x.nested? = some b → ∀ e ∈ r.listing b, e.HasRoom

theorem EndsWithin.hasRoomBelow (ends : r.EndsWithin (n + 1) a) (few : n + 1 ≤ UInt32.size)
    (found : r.flow? a = some f) (hx : x ∈ f.executions) : r.HasRoomBelow x := by
  intro b called e (listed : e ∈ r.rowsFrom r.depthBound b 0)
  have deeper := (level_of_mem_rowsFrom (ends b (calls_of_mem found hx called)) (by omega) listed).2
  unfold Execution.HasRoom
  omega

theorem isAbove_of_mem_rowsBelow (room : r.HasRoomBelow x) {e : Execution}
    (he : e ∈ r.rowsBelow x) (index : Nat) : (r.row 0 index x).isAbove e = true := by
  unfold rowsBelow at he
  cases called : x.nested? with
  | none =>
    rw [called] at he
    exact absurd he List.not_mem_nil
  | some b =>
    rw [called] at he
    obtain ⟨inner, listed, rfl⟩ := List.mem_map.1 he
    rw [Execution.isAbove_iff, Execution.toNat_level_deeper (room b called inner listed)]
    exact Nat.succ_pos _

/-- The rows below an execution are those that come before the next one that is no deeper. -/
theorem takeWhile_rowsBelow (room : r.HasRoomBelow x) (index next : Nat) (xs : List FlowExecution) :
    (r.rowsBelow x ++ r.rowsOf next xs).takeWhile (r.row 0 index x).isAbove = r.rowsBelow x := by
  rw [takeWhile_append_rowsOf]
  exact List.takeWhile_eq_self_iff.2 fun e he => isAbove_of_mem_rowsBelow room he index

theorem dropWhile_rowsBelow (room : r.HasRoomBelow x) (index next : Nat) (xs : List FlowExecution) :
    (r.rowsBelow x ++ r.rowsOf next xs).dropWhile (r.row 0 index x).isAbove = r.rowsOf next xs := by
  rw [List.dropWhile_append_of_pos fun e he => isAbove_of_mem_rowsBelow room he index,
    dropWhile_rowsOf]

/-! ## What stands below a subflow -/

/-- Below the row of each subflow stand the rows of its flow. -/
def ShowsBelow (r : RealmFlows) : List Execution → Prop
  | [] => True
  | e :: rows =>
    (∀ b, e.subflowAlias = some b → rows.takeWhile e.isAbove = (r.listing b).map e.under) ∧
      ShowsBelow r rows

theorem ShowsBelow.map_deeper (h : r.ShowsBelow rows) (rooms : ∀ e ∈ rows, e.HasRoom) :
    r.ShowsBelow (rows.map Execution.deeper) := by
  induction rows with
  | nil => exact h
  | cons e rows ih =>
    rw [List.forall_mem_cons] at rooms
    refine ⟨fun b called => ?_, ih h.2 rooms.2⟩
    rw [Execution.takeWhile_map_deeper rooms.1 rooms.2, h.1 b called, List.map_map]
    exact List.map_congr_left fun inner _ => (Execution.under_deeper e inner).symm

theorem ShowsBelow.append (h : r.ShowsBelow rows) {index : Nat}
    (rest : r.ShowsBelow (r.rowsOf index xs)) : r.ShowsBelow (rows ++ r.rowsOf index xs) := by
  induction rows with
  | nil => exact rest
  | cons e rows ih =>
    refine ⟨fun b called => ?_, ih h.2⟩
    exact (takeWhile_append_rowsOf e rows index xs).trans (h.1 b called)

theorem showsBelow_rowsOf (rooms : ∀ x ∈ xs, r.HasRoomBelow x)
    (inner : ∀ x ∈ xs, ∀ b, x.nested? = some b → r.ShowsBelow (r.listing b)) (index : Nat) :
    r.ShowsBelow (r.rowsOf index xs) := by
  induction xs generalizing index with
  | nil => exact trivial
  | cons x xs ih =>
    rw [List.forall_mem_cons] at rooms inner
    have below : r.ShowsBelow (r.rowsBelow x) := by
      unfold rowsBelow
      cases called : x.nested? with
      | none => exact trivial
      | some b => exact (inner.1 b called).map_deeper (rooms.1 b called)
    refine ⟨fun b called => ?_, below.append (ih rooms.2 inner.2 (index + 1))⟩
    rw [subflowAlias_row] at called
    refine (takeWhile_rowsBelow rooms.1 index (index + 1) xs).trans ?_
    rw [rowsBelow, called, Option.elim_some]
    exact List.map_congr_left fun e _ => (row_under index x e).symm

/-- In a listing the levels of which suffice, below the row of each subflow stand the rows of its flow. -/
theorem EndsWithin.showsBelow (ends : r.EndsWithin n a) (few : n ≤ UInt32.size) :
    r.ShowsBelow (r.listing a) := by
  -- By induction on the levels that are left: one is spent on moving the rows of a flow below another.
  induction n generalizing a with
  | zero => exact ends.elim
  | succ n ih =>
    cases found : r.flow? a with
    | none =>
      rw [listing_of_none found]
      exact trivial
    | some f =>
      rw [listing_eq_rowsOf ends.ends found]
      exact showsBelow_rowsOf (fun x hx => ends.hasRoomBelow few found hx)
        (fun x hx b called => ih (ends b (calls_of_mem found hx called)) (by omega)) 0

theorem ShowsBelow.split {before after : List Execution} {e : Execution} {b : String}
    (h : r.ShowsBelow (before ++ e :: after)) (called : e.subflowAlias = some b) :
    after.takeWhile e.isAbove = (r.listing b).map e.under := by
  induction before with
  | nil => exact h.1 b called
  | cons _ before ih => exact ih h.2

/-! ## The branches that a listing shows -/

theorem ofRows_rowsOf (rooms : ∀ x ∈ xs, r.HasRoomBelow x) (index : Nat) :
    Branch.ofRows (r.rowsOf index xs) =
      xs.map fun x => .node x (x.nested?.elim [] fun b => Branch.ofRows (r.listing b)) := by
  induction xs generalizing index with
  | nil => rw [rowsOf, Branch.ofRows, List.map_nil]
  | cons x xs ih =>
    rw [List.forall_mem_cons] at rooms
    have below : Branch.ofRows (r.rowsBelow x) =
        x.nested?.elim [] fun b => Branch.ofRows (r.listing b) := by
      unfold rowsBelow
      cases called : x.nested? with
      | none => rw [Option.elim_none, Option.elim_none, Branch.ofRows]
      | some b => exact Branch.ofRows_map_deeper (rooms.1 b called)
    rw [rowsOf, List.cons_append, Branch.ofRows, takeWhile_rowsBelow rooms.1,
      dropWhile_rowsBelow rooms.1, listed_row, below, ih rooms.2, List.map_cons]

/-- What is read off a listing are the branches of the listed flow. -/
theorem EndsWithin.branches (ends : r.EndsWithin n a) (few : n ≤ UInt32.size) :
    r.Branches a (Branch.ofRows (r.listing a)) := by
  induction n generalizing a with
  | zero => exact ends.elim
  | succ n ih =>
    cases found : r.flow? a with
    | none =>
      rw [listing_of_none found, Branch.ofRows]
      exact .absent found
    | some f =>
      rw [listing_eq_rowsOf ends.ends found,
        ofRows_rowsOf (fun x hx => ends.hasRoomBelow few found hx)]
      refine .flow found _ fun b hb => ih (ends b ?_) (by omega)
      rwa [calledBy_of_flow? found]

/-! ## The rows directly in a flow -/

theorem listed_direct (listable : r.Listable a) (found : r.flow? a = some f) :
    ((r.listing a).filter Execution.isDirectChild).map Execution.listed = f.executions := by
  have source : Execution.listed ∘ (fun p : FlowExecution × Nat => r.row 0 p.2 p.1) = Prod.fst :=
    funext fun p => listed_row 0 p.2 p.1
  rw [filter_direct_listing listable found, List.map_map, source, List.zipIdx_map_fst]

theorem index_direct (listable : r.Listable a) (found : r.flow? a = some f)
    (few : f.executions.length ≤ UInt32.size) :
    ((r.listing a).filter Execution.isDirectChild).map (fun e => e.index.toNat) =
      List.range f.executions.length := by
  rw [filter_direct_listing listable found, List.map_map, List.range_eq_range',
    ← List.zipIdx_map_snd 0 f.executions]
  refine List.map_congr_left fun p hp => row_index 0 p.2 p.1 ?_
  have := List.snd_lt_of_mem_zipIdx hp
  omega

end RealmFlows

/-! ## Servers -/

namespace MemoryServer

/-- What a listing shows of a flow and of all below it. -/
structure ShowsNesting (s : MemoryServer) (realm a : String) (f : FlowRecord)
    (rows : List Execution) : Prop where
  /-- The rows at level zero are those of the executions of the flow, in order. -/
  direct : (rows.filter Execution.isDirectChild).map Execution.listed = f.executions
  /-- They are counted from zero, if the field of an index holds their number. -/
  indices : f.executions.length ≤ UInt32.size →
    (rows.filter Execution.isDirectChild).map (fun e => e.index.toNat) =
      List.range f.executions.length
  /-- What follows the row of a subflow, up to the next row that is no deeper, are the rows of its flow
  with their levels raised. -/
  below : ∀ before e after b, rows = before ++ e :: after → e.subflowAlias = some b →
    (s.desk realm).realm.hasFlow b = true →
    ∃ inner, s.answerTo realm (.listExecutions b) = .ok inner ∧
      after.takeWhile e.isAbove = inner.map e.under ∧
      ∀ row ∈ inner, (e.under row).level.toNat = row.level.toNat + (e.level.toNat + 1)
  /-- What hangs below the flow is what is read off the rows. -/
  branches : ∀ branches,
    (s.desk realm).realm.Branches a branches ↔ branches = Branch.ofRows rows

theorem answerTo_listExecutions {s : MemoryServer} {realm a : String}
    (there : (s.desk realm).realm.hasFlow a = true) :
    s.answerTo realm (.listExecutions a) = .ok ((s.desk realm).realm.listing a) :=
  congrArg Prod.fst ((s.desk realm).serve_listExecutions there)

/-- A flow below which nothing goes in a circle, nor deeper than levels are counted, is listed, and the
rows tell how all below it nests.  In a realm without circles this is every flow, if there are fewer than
there are levels (`endsWithin_of_no_circle`, `Ends.listable`). -/
theorem listing_shows_nesting (s : MemoryServer) {realm a : String} {f : FlowRecord}
    (found : (s.desk realm).realm.flow? a = some f) (listable : (s.desk realm).realm.Listable a) :
    ∃ rows, s.answerTo realm (.listExecutions a) = .ok rows ∧ s.ShowsNesting realm a f rows := by
  have there : (s.desk realm).realm.hasFlow a = true := RealmFlows.hasFlow_iff.2 ⟨f, found⟩
  have direct := RealmFlows.listed_direct listable found
  have indices := RealmFlows.index_direct listable found
  obtain ⟨n, few, ends⟩ := listable
  have shown := ends.branches few
  refine ⟨_, answerTo_listExecutions there, direct, indices, ?_, fun branches => ⟨?_, ?_⟩⟩
  · intro before e after b split called there'
    have shows := ends.showsBelow few
    rw [split] at shows
    have below := shows.split called
    refine ⟨_, answerTo_listExecutions there', below, fun row hrow => Execution.toNat_level_under ?_⟩
    have member : e.under row ∈ after.takeWhile e.isAbove := below ▸ List.mem_map_of_mem hrow
    exact List.mem_takeWhile_imp member
  · exact fun h => h.unique shown
  · rintro rfl
    exact shown

/-- Two rows name one flow: the flow of the first was deleted and created anew with the second. -/
def namedTwice : List Remote.Call :=
  [⟨"acme", .createFlow "top" "" .basic⟩, ⟨"acme", .addSubflow "top" "shared" .basic⟩,
    ⟨"acme", .deleteFlow "flow-2"⟩, ⟨"acme", .addSubflow "top" "shared" .basic⟩,
    ⟨"acme", .addSubflow "shared" "inner" .basic⟩, ⟨"acme", .addExecution "inner" "auth-otp-form"⟩,
    ⟨"acme", .addExecution "top" "auth-cookie"⟩]

theorem listing_shows_nesting_namedTwice :
    let s := (start false).after namedTwice
    ∃ f rows, (s.desk "acme").realm.flow? "top" = some f ∧ (s.desk "acme").realm.Listable "top" ∧
      s.answerTo "acme" (.listExecutions "top") = .ok rows ∧ s.ShowsNesting "acme" "top" f rows ∧
      rows.map (fun e => (e.displayName, e.level, e.index)) =
        [("shared", 0, 0), ("inner", 1, 0), ("auth-otp-form", 2, 0), ("shared", 0, 1), ("inner", 1, 0),
          ("auth-otp-form", 2, 0), ("auth-cookie", 0, 2)] := by
  intro s
  have there : (s.desk "acme").realm.hasFlow "top" = true := by decide +kernel
  obtain ⟨f, found⟩ := RealmFlows.hasFlow_iff.1 there
  have listable : (s.desk "acme").realm.Listable "top" := ⟨3, by decide, by decide +kernel⟩
  obtain ⟨rows, answered, shows⟩ := listing_shows_nesting s found listable
  refine ⟨f, rows, found, listable, answered, shows, ?_⟩
  have all := Except.ok.inj (answered.symm.trans (answerTo_listExecutions there))
  rw [all]
  decide +kernel

end MemoryServer

end RealmSetup
