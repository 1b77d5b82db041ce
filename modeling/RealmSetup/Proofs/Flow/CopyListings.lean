import Mathlib.Data.List.Perm.Basic
import RealmSetup.Proofs.Flow.Likeness
import RealmSetup.Proofs.Flow.Upkeep

/-!
# What the listing of a copy says

A copy lists what its original lists, row for row, with other names for subflows and with identifiers of
its own.  That the rows agree (`forall₂_listing_copied`) is shown along the walk, since a copy calls for
the copies of what the original calls for.  That no identifier comes twice is a property of forests: the
executions below a flow are listed once each (`Forest.nodup_ids_listing`), and so are the flows
(`Forest.nodup_flowIds_listing`); the copies make a forest with what was there, and their numbers are
above all that were given out before.
-/

namespace RealmSetup

namespace RealmFlows

variable {r : RealmFlows} {a : String} {f : FlowRecord}

/-! ## Identifiers in a listing -/

/-- What is gathered along the flows that a flow calls for is gathered along its executions. -/
theorem flatMap_nested {β : Type} (f : FlowRecord) (gather : String → List β) :
    f.nested.flatMap gather = f.executions.flatMap fun x => x.nested?.elim [] gather := by
  rw [FlowRecord.nested]
  induction f.executions with
  | nil => rfl
  | cons x xs ih =>
    cases called : x.nested? with
    | none => rw [List.filterMap_cons_none called, ih, List.flatMap_cons, called]; rfl
    | some b =>
      rw [List.filterMap_cons_some called, List.flatMap_cons, ih, List.flatMap_cons, called]; rfl

/-- The rows below a flow are those of the executions of the flows there. -/
theorem ids_rowsFrom_perm (n : Nat) (a : String) (level : Nat) :
    ((r.rowsFrom n a level).map Execution.id).Perm
      (((r.aliasesFrom n a).filterMap r.flow?).flatMap fun f => f.executions.map fun x => ⟨x.id⟩) := by
  induction n generalizing a level with
  | zero => exact .rfl
  | succ n ih =>
    rw [aliasesFrom_succ]
    cases found : r.flow? a with
    | none =>
      rw [rowsFrom_of_none found, List.filterMap_cons_none found, calledBy_of_none found]
      exact .rfl
    | some f =>
      rw [rowsFrom_succ found, List.filterMap_cons_some found, calledBy_of_flow? found,
        List.flatMap_cons, List.map_flatMap, List.filterMap_flatMap, List.flatMap_assoc, flatMap_nested]
      simp only [List.map_cons]
      -- A listing has what is below an execution right after it, not after all its siblings.
      refine (List.map_append_flatMap_perm _ _ _).symm.trans (.append ?_ ?_)
      · conv_rhs => rw [← List.zipIdx_map_fst 0 f.executions, List.map_map]
        exact .rfl
      · conv_rhs => rw [← List.zipIdx_map_fst 0 f.executions, List.flatMap_map]
        refine .flatMap_left _ fun p _ => ?_
        cases p.1.nested? with
        | none => exact .rfl
        | some b => exact ih b (level + 1)

/-- The flows in the rows below a flow are those below what it calls for, in this order. -/
theorem flowIds_rowsFrom (n : Nat) (a : String) (level : Nat) :
    (r.rowsFrom n a level).filterMap Execution.flowId =
      (((r.calledBy a).flatMap (r.aliasesFrom n)).filterMap r.flow?).map FlowRecord.id := by
  induction n generalizing a level with
  | zero =>
    have nothing : (r.calledBy a).flatMap (r.aliasesFrom 0) = [] :=
      List.flatMap_eq_nil_iff.2 fun _ _ => rfl
    rw [nothing]
    rfl
  | succ n ih =>
    cases found : r.flow? a with
    | none =>
      rw [rowsFrom_of_none found, calledBy_of_none found]
      rfl
    | some f =>
      rw [rowsFrom_succ found, calledBy_of_flow? found, flatMap_nested, List.filterMap_flatMap]
      conv_rhs =>
        rw [← List.zipIdx_map_fst 0 f.executions, List.flatMap_map, List.filterMap_flatMap,
          List.map_flatMap]
      refine List.flatMap_congr fun p _ => ?_
      have flow : (r.row level p.2 p.1).flowId =
          (p.1.nested?.bind r.flow?).map FlowRecord.id := rfl
      cases called : p.1.nested? with
      | none =>
        rw [called] at flow
        rw [List.filterMap_cons_none flow]
        rfl
      | some b =>
        rw [called, Option.bind_some] at flow
        rw [Option.elim_some, Option.elim_some, aliasesFrom_succ]
        cases below : r.flow? b with
        | none =>
          rw [below] at flow
          rw [List.filterMap_cons_none flow, List.filterMap_cons_none below, ih]
        | some g =>
          rw [below] at flow
          rw [List.filterMap_cons_some flow, List.filterMap_cons_some below, ih, List.map_cons]

/-- A forest has no flow below another twice. -/
theorem Forest.subperm_flowsFrom (h : r.Forest) (n : Nat) (a : String) :
    ((r.aliasesFrom n a).filterMap r.flow?).Subperm r.flows := by
  have names : (((r.aliasesFrom n a).filterMap r.flow?).map FlowRecord.aliasName).Nodup := by
    rw [aliases_filterMap_flow?]
    exact (h.nodup_aliasesFrom n a).filter _
  refine names.of_map.subperm fun f hf => ?_
  obtain ⟨b, -, found⟩ := List.mem_filterMap.1 hf
  exact (flow?_eq_some found).1

/-- In a forest a listing has every execution once at most. -/
theorem Forest.nodup_ids_listing (h : r.Forest) (apart : r.executionIds.Nodup) (a : String) :
    ((r.listing a).map Execution.id).Nodup := by
  obtain ⟨flows, perm, fewer⟩ := List.subperm_iff.1 (h.subperm_flowsFrom r.depthBound a)
  have ids : (r.flows.flatMap fun f => f.executions.map fun x => (⟨x.id⟩ : NodeId)) =
      r.executionIds.map NodeId.mk := by
    rw [executionIds, executions, List.map_map, List.map_flatMap]
    rfl
  have all : (flows.flatMap fun f => f.executions.map fun x => (⟨x.id⟩ : NodeId)).Nodup := by
    rw [(perm.flatMap_right _).nodup_iff, ids]
    exact apart.map fun _ _ same => congrArg NodeId.text same
  exact (ids_rowsFrom_perm _ a 0).nodup_iff.2 ((fewer.flatMap _).nodup all)

/-- In a forest a listing has every flow once at most, and not the one that is listed. -/
theorem Forest.nodup_flowIds_listing (h : r.Forest) (apart : r.flowIds.Nodup)
    (found : r.flow? a = some f) :
    (f.id :: (r.listing a).filterMap Execution.flowId).Nodup := by
  have below : f.id :: (r.listing a).filterMap Execution.flowId =
      ((r.aliasesFrom (r.depthBound + 1) a).filterMap r.flow?).map FlowRecord.id := by
    rw [listing, flowIds_rowsFrom, aliasesFrom_succ, List.filterMap_cons_some found, List.map_cons]
  obtain ⟨flows, perm, fewer⟩ := List.subperm_iff.1 (h.subperm_flowsFrom (r.depthBound + 1) a)
  rw [below]
  exact (fewer.map _).nodup ((perm.map _).nodup_iff.2 apart)

end RealmFlows

/-! ## Rows of copies -/

/-- A row says of a copy, in the flow named `dest`, what another says of its original. -/
structure Execution.IsCopy (dest : String) (e e' : Execution) : Prop where
  requirement : e'.requirement = e.requirement
  level : e'.level = e.level
  index : e'.index = e.index
  isFlow : e'.isFlow = e.isFlow
  providerId : e'.providerId = e.providerId
  configId : e'.configId = e.configId
  aliasName : e'.aliasName = e.aliasName
  /-- The name of a subflow begins with that of the copy, a leaf keeps its own. -/
  displayName : e'.displayName = if e.isFlow then dest ++ " " ++ e.displayName else e.displayName
  /-- A subflow has a flow if its original has. -/
  flowId : e'.flowId.isSome = e.flowId.isSome

namespace FlowDesk

variable {d : FlowDesk} {source dest a b : String} {f g : FlowRecord}

/-- An execution is the copy of another. -/
structure CopiesExecution (source dest : String) (x x' : FlowExecution) : Prop where
  requirement : x'.requirement = x.requirement
  configId : x'.configId = x.configId
  /-- It calls for the copy of what the other calls for. -/
  target : x'.target =
    match x.target with
    | .flow aliasName => .flow (renamed source dest aliasName)
    | target => target

theorem forall₂_copyRecord (source dest : String) (n : Nat) (f : FlowRecord) :
    List.Forall₂ (CopiesExecution source dest) f.executions (copyRecord source dest n f).executions := by
  rw [copyRecord]
  generalize n + 2 = k
  induction f.executions generalizing k with
  | nil => exact .nil
  | cons x xs ih => exact .cons ⟨rfl, rfl, rfl⟩ (ih (k + 1))

theorem CopiesExecution.nested? {x x' : FlowExecution} (h : CopiesExecution source dest x x') :
    x'.nested? = x.nested?.map (renamed source dest) := by
  unfold FlowExecution.nested?
  rw [h.target]
  cases x.target <;> rfl

section Free

variable (ends : d.realm.Ends source)
  (free : ∀ a, d.realm.Reaches source a → ¬d.realm.hasFlow (renamed source dest a) = true)
include ends free

theorem isCopy_row {x x' : FlowExecution} (h : CopiesExecution source dest x x')
    (below : ∀ b, x.nested? = some b → d.realm.Reaches source b ∧ b ≠ source) (level index : Nat) :
    (d.realm.row level index x).IsCopy dest ((d.copied source dest).realm.row level index x') := by
  obtain ⟨id, requirement, target, configId⟩ := x
  obtain ⟨id', requirement', target', configId'⟩ := x'
  obtain ⟨rfl, rfl, target_eq⟩ := h
  cases target with
  | provider p =>
    cases target_eq
    exact ⟨rfl, rfl, rfl, rfl, rfl, rfl, rfl, rfl, rfl⟩
  | flow b =>
    cases target_eq
    obtain ⟨reached, other⟩ := below b rfl
    have name : renamed source dest b = dest ++ " " ++ b := renamed_of_ne dest other
    have below := flow?_copied_renamed ends reached (free b reached)
    rw [name] at below ⊢
    rcases below with ⟨absent, missing⟩ | ⟨g, n, found, copy⟩
    · constructor <;> simp [RealmFlows.row, FlowExecution.nested?, absent, missing]
    · constructor <;> simp [RealmFlows.row, FlowExecution.nested?, found, copy, copyRecord]

/-- A copy lists what its original lists, row for row. -/
theorem forall₂_listing_copied :
    List.Forall₂ (Execution.IsCopy dest) (d.realm.listing source)
      ((d.copied source dest).realm.listing dest) := by
  have no_circle := ends.no_circle
  have along : ∀ n a level, d.realm.Reaches source a →
      List.Forall₂ (Execution.IsCopy dest) (d.realm.rowsFrom n a level)
        ((d.copied source dest).realm.rowsFrom n (renamed source dest a) level) := by
    intro n
    induction n with
    | zero => exact fun _ _ _ => .nil
    | succ n ih =>
      intro a level reached
      rcases flow?_copied_renamed ends reached (free a reached) with
        ⟨absent, missing⟩ | ⟨g, k, found, copy⟩
      · rw [RealmFlows.rowsFrom_of_none absent, RealmFlows.rowsFrom_of_none missing]
        exact .nil
      · rw [RealmFlows.rowsFrom_succ found, RealmFlows.rowsFrom_succ copy]
        have below : ∀ x ∈ g.executions, ∀ b, x.nested? = some b →
            d.realm.Reaches source b ∧ b ≠ source := by
          intro x hx b called
          have calls := RealmFlows.calls_of_mem found hx called
          refine ⟨reached.tail calls, ?_⟩
          rintro rfl
          exact no_circle (.tail' reached calls)
        have executions : List.Forall₂ (fun p p' => p.1 ∈ g.executions ∧
            CopiesExecution source dest p.1 p'.1 ∧ p.2 = p'.2) g.executions.zipIdx
            (copyRecord source dest k g).executions.zipIdx :=
          forall₂_of_mem (forall₂_zipIdx (forall₂_copyRecord source dest k g) 0 0)
            fun p hp p' _ same => ⟨List.fst_mem_of_mem_zipIdx hp, same.1, same.2⟩
        refine List.rel_flatMap executions ?_
        rintro ⟨x, i⟩ ⟨x', j⟩ ⟨hx, same, rfl⟩
        refine .cons (isCopy_row ends free same (below x hx) level i) ?_
        show List.Forall₂ _ (x.nested?.elim [] _) (x'.nested?.elim [] _)
        rw [same.nested?]
        cases called : x.nested? with
        | none => exact .nil
        | some b => exact ih b (level + 1) (below x hx b called).1
  have rows := along (d.copied source dest).realm.depthBound source 0 .refl
  have deeper : d.realm.depthBound ≤ (d.copied source dest).realm.depthBound := by
    simp [RealmFlows.depthBound, copied]
  rwa [renamed_self, RealmFlows.rowsFrom_eq ends.endsWithin deeper] at rows

end Free

/-! ## Identifiers of copies -/

/-- The copies are numbered after all that was there before. -/
theorem isNumbered_of_mem_copies (h : f ∈ d.copies source dest) :
    IsNumbered "flow" d.issued (d.copied source dest).issued f.id ∧
      ∀ x ∈ f.executions, IsNumbered "exec" d.issued (d.copied source dest).issued x.id := by
  obtain ⟨g, -, n, above, upto, rfl⟩ := mem_copyRecords h
  exact ⟨isNumbered_copyRecord_id above upto, fun x hx =>
    isNumbered_copyRecord_executions above upto (List.mem_map_of_mem hx)⟩

section Free

variable (ends : d.realm.Ends source)
  (free : ∀ a, d.realm.Reaches source a → ¬d.realm.hasFlow (renamed source dest a) = true)
include ends free

/-- No way leads from the copy to anything but copies. -/
theorem exists_of_reaches_copied (reached : (d.copied source dest).realm.Reaches dest b) :
    ∃ a, d.realm.Reaches source a ∧ renamed source dest a = b := by
  induction reached with
  | refl => exact ⟨source, .refl, renamed_self source dest⟩
  | tail _ called ih =>
    obtain ⟨a, before, rfl⟩ := ih
    obtain ⟨c, calls, rfl⟩ := (calls_copied ends before (free a before)).1 called
    exact ⟨c, before.tail calls, rfl⟩

theorem mem_copies_of_reaches (reached : (d.copied source dest).realm.Reaches dest b)
    (found : (d.copied source dest).realm.flow? b = some f) : f ∈ d.copies source dest := by
  obtain ⟨a, before, rfl⟩ := exists_of_reaches_copied ends free reached
  rw [flow?_copied, RealmFlows.not_hasFlow.1 (free a before), Option.none_or] at found
  exact List.mem_of_find?_eq_some found

/-- All identifiers in the listing of a copy come after those that were there before. -/
theorem isNumbered_of_mem_listing_copied {e : Execution}
    (h : e ∈ (d.copied source dest).realm.listing dest) :
    IsNumbered "exec" d.issued (d.copied source dest).issued e.id.text ∧
      ∀ id, e.flowId = some id → IsNumbered "flow" d.issued (d.copied source dest).issued id := by
  obtain ⟨b, f, reached, found, x, hx, level, index, rfl⟩ := RealmFlows.exists_of_mem_listing h
  refine ⟨(isNumbered_of_mem_copies (mem_copies_of_reaches ends free reached found)).2 x hx, ?_⟩
  intro id below
  obtain ⟨g, there, rfl⟩ := Option.map_eq_some_iff.1 below
  obtain ⟨c, called, there⟩ := Option.bind_eq_some_iff.1 there
  have further := reached.tail (RealmFlows.calls_of_mem found hx called)
  exact (isNumbered_of_mem_copies (mem_copies_of_reaches ends free further there)).1

end Free

/-! ## The copy among the flows of the realm -/

/-- Only the copy of the flow itself is listed. -/
theorem filter_topLevel_copyRecords (source dest : String) (issued : Nat) {fs : List FlowRecord}
    (others : ∀ f ∈ fs, f.aliasName ≠ source) :
    (copyRecords source dest issued fs).filter FlowRecord.topLevel = [] := by
  rw [List.filter_eq_nil_iff]
  intro f hf top
  obtain ⟨g, hg, n, -, -, rfl⟩ := mem_copyRecords hf
  exact others g hg (eq_of_beq top)

/-- The flow itself is the first to be copied. -/
theorem recordsBelow_eq (h : d.realm.Forest) (found : d.realm.flow? source = some f) :
    ∃ rest, d.recordsBelow source = f :: rest ∧ ∀ g ∈ rest, g.aliasName ≠ source := by
  have nodup := h.nodup_aliasesFrom d.realm.depthBound source
  rw [RealmFlows.depthBound, RealmFlows.aliasesFrom_succ, List.nodup_cons] at nodup
  refine ⟨((d.realm.calledBy source).flatMap (d.realm.aliasesFrom d.realm.flows.length)).filterMap
    d.realm.flow?, ?_, fun g hg same => ?_⟩
  · rw [recordsBelow, RealmFlows.aliasesBelow, RealmFlows.depthBound, RealmFlows.aliasesFrom_succ,
      List.filterMap_cons_some found]
  · obtain ⟨b, below, there⟩ := List.mem_filterMap.1 hg
    have name := (RealmFlows.flow?_eq_some there).2
    rw [name.symm.trans same] at below
    exact nodup.1 below

section Found

variable (h : d.realm.Forest) (found : d.realm.flow? source = some f)
include h found

theorem topLevelFlows_copied : (d.copied source dest).realm.topLevelFlows =
    d.realm.topLevelFlows ++ [copyRecord source dest d.issued f] := by
  obtain ⟨rest, records, others⟩ := recordsBelow_eq h found
  have top : (copyRecord source dest d.issued f).topLevel = true :=
    beq_iff_eq.2 (RealmFlows.flow?_eq_some found).2
  have copies : d.copies source dest = copyRecords source dest d.issued (d.recordsBelow source) := rfl
  rw [RealmFlows.topLevelFlows, copied, List.filter_append, copies, records, copyRecords,
    List.filter_cons_of_pos top, filter_topLevel_copyRecords _ _ _ others]
  rfl

theorem flow?_copied_dest (free : ¬d.realm.hasFlow dest = true) :
    (d.copied source dest).realm.flow? dest = some (copyRecord source dest d.issued f) := by
  obtain ⟨rest, records, -⟩ := recordsBelow_eq h found
  have name : (copyRecord source dest d.issued f).aliasName = dest := by
    rw [copyRecord, (RealmFlows.flow?_eq_some found).2, renamed_self]
  have copies : d.copies source dest = copyRecords source dest d.issued (d.recordsBelow source) := rfl
  rw [flow?_copied, RealmFlows.not_hasFlow.1 free, Option.none_or, copies, records, copyRecords]
  exact List.find?_cons_of_pos (decide_eq_true name)

end Found

/-- What was there before is listed as before. -/
theorem listing_copied (h : d.realm.Forest) (there : d.realm.hasFlow a = true) :
    (d.copied source dest).realm.listing a = d.realm.listing a :=
  RealmFlows.listing_congr (h.ends a) fun _ reached =>
    flow?_copied_of_hasFlow (h.hasFlow_of_reaches there reached)

theorem free_of_unused (free : ¬d.realm.hasFlow dest = true)
    (unused : ∀ n, d.realm.Reaches source n → n ≠ source → ¬d.realm.hasFlow (dest ++ " " ++ n) = true) :
    ∀ a, d.realm.Reaches source a → ¬d.realm.hasFlow (renamed source dest a) = true := by
  intro a reached
  by_cases same : a = source
  · rwa [same, renamed_self]
  · rw [renamed_of_ne dest same]
    exact unused a reached same

end FlowDesk

/-! ## Servers -/

namespace MemoryServer

variable {s : MemoryServer}

/-- The answer to a request. -/
abbrev answerTo (s : MemoryServer) (realm : String) (op : Remote.Op) : Except Error op.Result :=
  (s.serve ⟨realm, op⟩).1

/-- What can be seen of a copy: a flow whose rows are those of the original, and nothing else that is
new. -/
structure ShowsCopy (s s' : MemoryServer) (realm source dest : String) (rows rows' : List Execution)
    (copy : FlowSummary) : Prop where
  original : s.answerTo realm (.listExecutions source) = .ok rows
  listing : s'.answerTo realm (.listExecutions dest) = .ok rows'
  /-- The copy has the rows of the original, one for one. -/
  alike : List.Forall₂ (Execution.IsCopy dest) rows rows'
  /-- No two of its executions have one identifier, -/
  ids_nodup : (rows'.map Execution.id).Nodup
  /-- and none has that of an execution in any realm. -/
  ids_unused : ∀ e ∈ rows', s.Unused RealmFlows.executionIds realm e.id.text
  /-- The flows of the realm are listed as before, with the copy after them. -/
  flows : ∃ before, s.answerTo realm .listFlows = .ok before ∧
    s'.answerTo realm .listFlows = .ok (before ++ [copy])
  name : copy.aliasName = dest
  /-- The copy and the flows below it differ in their identifiers, -/
  flowIds_nodup : (copy.id :: rows'.filterMap Execution.flowId).Nodup
  /-- and none has that of a flow in any realm. -/
  flowIds_unused : ∀ id ∈ copy.id :: rows'.filterMap Execution.flowId,
    s.Unused RealmFlows.flowIds realm id
  /-- What was there before is listed as before. -/
  kept : ∀ a, (s.desk realm).realm.hasFlow a = true →
    s'.answerTo realm (.listExecutions a) = s.answerTo realm (.listExecutions a)
  entryPoint : s'.answerTo realm .browserFlow = s.answerTo realm .browserFlow
  configs : ∀ id, s'.answerTo realm (.getConfig id) = s.answerTo realm (.getConfig id)
  others : ∀ other, other ≠ realm → s'.realms.get? other = s.realms.get? other

theorem desk_serve_copyFlow {realm source dest : String}
    (makes : (s.desk realm).MakesCopy source dest) :
    (s.serve ⟨realm, .copyFlow source dest⟩).2.desk realm = (s.desk realm).copied source dest := by
  rw [desk_serve, if_pos rfl, FlowDesk.serve_copyFlow, if_pos makes]

/-- Where its name and those of all below it are free, the copy of a flow in a forest is made, and it
lists what the original lists. -/
theorem serve_copyFlow_shows (reached : s.Reached) (realm source dest : String)
    (forest : (s.desk realm).realm.Forest) (there : (s.desk realm).realm.hasFlow source = true)
    (free : ¬(s.desk realm).realm.hasFlow dest = true)
    (unused : ∀ n, (s.desk realm).realm.Reaches source n → n ≠ source →
      ¬(s.desk realm).realm.hasFlow (dest ++ " " ++ n) = true) :
    s.answerTo realm (.copyFlow source dest) = .ok .created ∧
      ∃ rows rows' copy,
        s.ShowsCopy (s.serve ⟨realm, .copyFlow source dest⟩).2 realm source dest rows rows' copy := by
  refine ⟨by simp [answerTo, serve, FlowDesk.serve, FlowDesk.copyFlow, free, there], ?_⟩
  have desk := desk_serve_copyFlow ⟨free, there⟩
  have others : ∀ other, other ≠ realm →
      (s.serve ⟨realm, .copyFlow source dest⟩).2.realms.get? other = s.realms.get? other :=
    fun _ => s.get?_serve_of_ne ⟨realm, .copyFlow source dest⟩
  have numbered := desk ▸ (reached.serve ⟨realm, .copyFlow source dest⟩).numbered realm
  generalize (s.serve ⟨realm, .copyFlow source dest⟩).2 = s' at desk others
  have answers : ∀ op, s'.answerTo realm op =
      (((s.desk realm).copied source dest).serve op).1 := fun op => desk ▸ rfl
  obtain ⟨f, found⟩ := RealmFlows.hasFlow_iff.1 there
  have ends := forest.ends source
  have free_all := FlowDesk.free_of_unused free unused
  have forest' := FlowDesk.forest_copied forest ⟨free, there⟩ fun a below =>
    free_all a ((RealmFlows.mem_aliasesBelow ends).1 below)
  have copy := FlowDesk.flow?_copied_dest forest found free
  have copy_mem := FlowDesk.mem_copies_of_reaches ends free_all .refl copy
  have numbers := fun e => FlowDesk.isNumbered_of_mem_listing_copied (e := e) ends free_all
  refine ⟨(s.desk realm).realm.listing source, ((s.desk realm).copied source dest).realm.listing dest,
    (FlowDesk.copyRecord source dest (s.desk realm).issued f).summary, ?_⟩
  constructor
  · exact congrArg Prod.fst (FlowDesk.serve_listExecutions _ there)
  · rw [answers, FlowDesk.serve_listExecutions _ (RealmFlows.hasFlow_iff.2 ⟨_, copy⟩)]
  · exact FlowDesk.forall₂_listing_copied ends free_all
  · exact forest'.nodup_ids_listing numbered.executions_nodup dest
  · exact fun e he => reached.unused_execution (numbers e he).1
  · refine ⟨_, rfl, ?_⟩
    rw [answers, FlowDesk.serve, FlowDesk.topLevelFlows_copied forest found, List.map_append]
    rfl
  · exact (RealmFlows.flow?_eq_some copy).2
  · exact forest'.nodup_flowIds_listing numbered.flows_nodup copy
  · intro id hid
    rcases List.mem_cons.1 hid with rfl | hid
    · exact reached.unused_flow (FlowDesk.isNumbered_of_mem_copies copy_mem).1
    · obtain ⟨e, he, below⟩ := List.mem_filterMap.1 hid
      exact reached.unused_flow ((numbers e he).2 id below)
  · intro a before
    have after : ((s.desk realm).copied source dest).realm.hasFlow a = true := by
      rwa [RealmFlows.hasFlow, FlowDesk.flow?_copied_of_hasFlow before]
    rw [answers, FlowDesk.serve_listExecutions _ after, FlowDesk.listing_copied forest before]
    exact (congrArg Prod.fst (FlowDesk.serve_listExecutions _ before)).symm
  · exact answers .browserFlow
  · exact fun id => answers (.getConfig id)
  · exact others

/-- The stock entry point is copied with the two flows below it. -/
theorem serve_copyFlow_shows_browser :
    ∃ rows rows' copy,
      (start true).ShowsCopy ((start true).serve ⟨"acme", .copyFlow "browser" "mine"⟩).2 "acme"
        "browser" "mine" rows rows' copy ∧
      rows'.map Execution.displayName =
        ["auth-cookie", "auth-spnego", "identity-provider-redirector", "mine forms",
          "auth-username-password-form", "mine Browser - Conditional OTP",
          "conditional-user-configured", "auth-otp-form"] := by
  have forest : ((start true).desk "acme").realm.Forest := RealmFlows.forest_fresh true 0
  have unused : ∀ n, ((start true).desk "acme").realm.Reaches "browser" n → n ≠ "browser" →
      ¬((start true).desk "acme").realm.hasFlow ("mine" ++ " " ++ n) = true := by
    intro n below other
    have mem := (RealmFlows.mem_aliasesBelow (forest.ends "browser")).2 below
    have names : ((start true).desk "acme").realm.aliasesBelow "browser" =
        ["browser", "forms", "Browser - Conditional OTP"] := by decide +kernel
    rw [names] at mem
    simp only [List.mem_cons, List.not_mem_nil, or_false] at mem
    rcases mem with rfl | rfl | rfl
    · exact absurd rfl other
    · decide +kernel
    · decide +kernel
  obtain ⟨-, rows, rows', copy, shows⟩ := serve_copyFlow_shows (.start true) "acme" "browser" "mine"
    forest (by decide +kernel) (by decide +kernel) unused
  refine ⟨rows, rows', copy, shows, ?_⟩
  have listed : (((start true).serve ⟨"acme", .copyFlow "browser" "mine"⟩).2.answerTo "acme"
      (.listExecutions "mine")).map (List.map Execution.displayName) =
        .ok ["auth-cookie", "auth-spnego", "identity-provider-redirector", "mine forms",
          "auth-username-password-form", "mine Browser - Conditional OTP",
          "conditional-user-configured", "auth-otp-form"] := by decide +kernel
  rw [shows.listing] at listed
  exact Except.ok.inj listed

end MemoryServer

end RealmSetup
