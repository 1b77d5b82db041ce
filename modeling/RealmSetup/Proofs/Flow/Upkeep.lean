import Mathlib.Data.List.Count
import RealmSetup.Proofs.Flow.Circles
import RealmSetup.Proofs.Flow.WholeFlows
import RealmSetup.Proofs.Flow.Names

/-!
# What keeps the flows of a realm a forest

In terms of all aliases that flows call for (`RealmFlows.called`), the flows are a forest when aliases are
unique, every alias called for names a flow, no flow that is listed is called for and every other is
called for once (`Forest.of_counts`).  In these terms a forest stays one when the realm is extended
(`Forest.extends`), when a flow is copied under unused aliases (`Forest.copied`) and when a flow that is
listed is deleted (`Forest.without`).  What such a deletion takes away is apart from what any other flow
reaches, so that no other listing changes (`Forest.listing_without`).
-/

namespace RealmSetup

open Relation (ReflTransGen reflTransGen_swap)

namespace RealmFlows

variable {r r' : RealmFlows} {a b c : String} {f : FlowRecord}

/-! ## What is called for -/

/-- The aliases that flows call for, each as often as it is called for. -/
def called (r : RealmFlows) : List String := r.flows.flatMap FlowRecord.nested

theorem mem_called : b ∈ r.called ↔ ∃ f ∈ r.flows, b ∈ f.nested :=
  List.mem_flatMap

theorem called_eq_executions (r : RealmFlows) :
    r.called = r.executions.filterMap FlowExecution.nested? := by
  rw [called, executions, List.filterMap_flatMap]
  rfl

/-- A realm is a forest by the numbers of calls for its flows. -/
theorem Forest.of_counts (names : r.Unambiguous) (closed : ∀ b ∈ r.called, r.hasFlow b = true)
    (counts : ∀ f ∈ r.flows, r.called.count f.aliasName = if f.topLevel then 0 else 1)
    (rooted : ∀ f ∈ r.flows, f.topLevel = false →
      ∃ t ∈ r.flows, t.topLevel = true ∧ r.Reaches t.aliasName f.aliasName) : r.Forest where
  names := names
  closed f hf b hb := closed b (mem_called.2 ⟨f, hf, hb⟩)
  roots f hf top g hg mem := by
    have none := counts f hf
    rw [if_pos top, List.count_eq_zero] at none
    exact none (mem_called.2 ⟨g, hg, mem⟩)
  once f hf nested := by
    have one := counts f hf
    rwa [if_neg (by simp [nested])] at one
  rooted := rooted

theorem Forest.hasFlow_of_called (h : r.Forest) (hb : b ∈ r.called) : r.hasFlow b = true := by
  obtain ⟨f, hf, mem⟩ := mem_called.1 hb
  exact h.closed f hf b mem

theorem Forest.count_called (h : r.Forest) (hf : f ∈ r.flows) :
    r.called.count f.aliasName = if f.topLevel then 0 else 1 := by
  split
  · next top =>
    rw [List.count_eq_zero, mem_called]
    rintro ⟨g, hg, mem⟩
    exact h.roots f hf top g hg mem
  · next nested => exact h.once f hf (by simpa using nested)

/-- An alias is called for once at most. -/
theorem Forest.count_called_le (h : r.Forest) (b : String) : r.called.count b ≤ 1 := by
  by_cases called : b ∈ r.called
  · obtain ⟨f, hf⟩ := hasFlow_iff.1 (h.hasFlow_of_called called)
    obtain ⟨mem, rfl⟩ := flow?_eq_some hf
    rw [h.count_called mem]
    split <;> decide
  · rw [List.count_eq_zero.2 called]
    exact Nat.zero_le 1

/-- What a flow calls for is what its record says. -/
theorem Forest.calls_of_mem_nested (h : r.Forest) (hf : f ∈ r.flows) (hb : b ∈ f.nested) :
    r.Calls f.aliasName b := by
  obtain ⟨g, found⟩ := hasFlow_iff.1 (hasFlow_of_mem hf)
  obtain rfl := h.eq_of_flow? found hf rfl
  rwa [Calls, calledBy_of_flow? found]

/-! ## Above and below -/

/-- Of two flows above one, either is above the other. -/
theorem Forest.reaches_or (h : r.Forest) (first : r.Reaches a c) (second : r.Reaches b c) :
    r.Reaches a b ∨ r.Reaches b a := by
  have unique : Relator.RightUnique (Function.swap r.Calls) := fun _ _ _ left right =>
    h.calls_unique left right
  have up := ReflTransGen.total_of_right_unique unique first.swap second.swap
  exact up.symm.imp reflTransGen_swap.1 reflTransGen_swap.1

/-- Every flow is come to from exactly one that is listed. -/
theorem Forest.existsUnique_root (h : r.Forest) (hf : f ∈ r.flows) :
    ∃! t, t ∈ r.flows ∧ t.topLevel = true ∧ r.Reaches t.aliasName f.aliasName := by
  obtain ⟨t, ht, top, reached⟩ : ∃ t ∈ r.flows, t.topLevel = true ∧
      r.Reaches t.aliasName f.aliasName := by
    cases top : f.topLevel with
    | true => exact ⟨f, hf, top, .refl⟩
    | false => exact h.rooted f hf top
  refine ⟨t, ⟨ht, top, reached⟩, fun u ⟨hu, hu_top, hu_reached⟩ => ?_⟩
  exact List.inj_on_of_nodup_map h.names hu ht (h.eq_of_reaches hu hu_top ht top hu_reached reached)

/-- What is below a flow that is listed is below no other flow but those below it. -/
theorem Forest.not_reaches_of_listed (h : r.Forest) {t : FlowRecord} (ht : t ∈ r.flows)
    (top : t.topLevel = true) (apart : ¬r.Reaches t.aliasName a) (reached : r.Reaches a b) :
    ¬r.Reaches t.aliasName b := by
  intro below
  rcases h.reaches_or below reached with down | up
  · exact apart down
  · rcases up.cases_tail with same | ⟨c, -, called⟩
    · exact apart (same ▸ .refl)
    · exact h.not_calls ht top called

/-! ## Extending -/

theorem Forest.of_shape (h : r.Forest) (same : r'.shape = r.shape) : r'.Forest := by
  refine .of_counts ?_ (fun b hb => ?_) (fun f hf => ?_) fun f hf nested => ?_
  · rw [Unambiguous, aliases_of_shape same]
    exact h.names
  · obtain ⟨f, hf, mem⟩ := mem_called.1 hb
    obtain ⟨g, hg, -, calls, -⟩ := exists_of_shape same hf
    rw [hasFlow_of_shape same]
    exact h.closed g hg b ((calls b).2 mem)
  · obtain ⟨g, hg, name, -, top⟩ := exists_of_shape same hf
    rw [called, count_nested_of_shape same, ← name, ← top]
    exact h.count_called hg
  · obtain ⟨g, hg, name, -, top⟩ := exists_of_shape same hf
    obtain ⟨t, ht, listed, reached⟩ := h.rooted g hg (top.trans nested)
    obtain ⟨u, hu, root, -, still⟩ := exists_of_shape same.symm ht
    refine ⟨u, hu, still.trans listed, ?_⟩
    rw [Reaches, calls_of_shape same, root, ← name]
    exact reached

theorem Forest.addFlow (h : r.Forest) (free : ¬r.hasFlow f.aliasName = true)
    (top : f.topLevel = true) (empty : f.executions = []) : (r.addFlow f).Forest := by
  have nothing : f.nested = [] := by rw [FlowRecord.nested, empty, List.filterMap_nil]
  have calls : (r.addFlow f).called = r.called := by
    rw [called, RealmFlows.addFlow, List.flatMap_append, List.flatMap_singleton, nothing,
      List.append_nil, called]
  refine .of_counts ((Extends.flow free top empty).unambiguous h.names) ?_ ?_ ?_
  · intro b hb
    rw [hasFlow_addFlow, h.hasFlow_of_called (calls ▸ hb), Bool.true_or]
  · intro g hg
    rw [calls]
    rcases List.mem_append.1 hg with hg | hg
    · exact h.count_called hg
    · rw [List.mem_singleton.1 hg, if_pos top, List.count_eq_zero]
      exact fun called => free (h.hasFlow_of_called called)
  · intro g hg nested
    rcases List.mem_append.1 hg with hg | hg
    · obtain ⟨t, ht, listed, reached⟩ := h.rooted g hg nested
      exact ⟨t, List.mem_append_left _ ht, listed, reached.mono fun u v => (calls_addFlow empty).2⟩
    · rw [List.mem_singleton.1 hg, top] at nested
      cases nested

theorem Forest.addSubflow (h : r.Forest) {parent : String} {x : FlowExecution}
    (there : r.hasFlow parent = true) (free : ¬r.hasFlow f.aliasName = true)
    (nested : f.topLevel = false) (empty : f.executions = [])
    (called : x.nested? = some f.aliasName) : ((r.addFlow f).addExecution parent x).Forest := by
  have calls : ∀ {u v}, ((r.addFlow f).addExecution parent x).Calls u v ↔
      r.Calls u v ∨ (u = parent ∧ v = f.aliasName) := calls_addSubflow there empty called
  -- There is one call more, and it is for the new flow.
  have one_more : ((r.addFlow f).addExecution parent x).called.Perm (r.called ++ [f.aliasName]) := by
    have parent_there : (r.addFlow f).hasFlow parent = true := by
      rw [hasFlow_addFlow, there, Bool.true_or]
    have executions := executions_addExecution_perm parent x parent_there
    rw [executions_addFlow, empty, List.append_nil] at executions
    have named := executions.filterMap FlowExecution.nested?
    rw [List.filterMap_append] at named
    rw [called_eq_executions, called_eq_executions]
    simpa [called] using named
  have flows : ((r.addFlow f).addExecution parent x).flows.map
      (fun g => (g.aliasName, g.topLevel)) = (r.flows ++ [f]).map fun g => (g.aliasName, g.topLevel) :=
    map_changeFirst fun _ _ _ => rfl
  have old : ∀ g ∈ ((r.addFlow f).addExecution parent x).flows,
      ∃ k ∈ r.flows ++ [f], k.aliasName = g.aliasName ∧ k.topLevel = g.topLevel := by
    intro g hg
    have mem : (g.aliasName, g.topLevel) ∈ (r.flows ++ [f]).map fun g => (g.aliasName, g.topLevel) :=
      flows ▸ List.mem_map_of_mem hg
    obtain ⟨k, hk, same⟩ := List.mem_map.1 mem
    exact ⟨k, hk, Prod.ext_iff.1 same⟩
  have kept : ∀ k ∈ r.flows, ∃ g ∈ ((r.addFlow f).addExecution parent x).flows,
      g.aliasName = k.aliasName ∧ g.topLevel = k.topLevel := by
    intro k hk
    have mem : (k.aliasName, k.topLevel) ∈
        ((r.addFlow f).addExecution parent x).flows.map fun g => (g.aliasName, g.topLevel) :=
      flows ▸ List.mem_map_of_mem (List.mem_append_left _ hk)
    obtain ⟨g, hg, same⟩ := List.mem_map.1 mem
    exact ⟨g, hg, Prod.ext_iff.1 same⟩
  have reached_still : ∀ {u v}, r.Reaches u v → ((r.addFlow f).addExecution parent x).Reaches u v :=
    fun reached => reached.mono fun u v called => calls.2 (.inl called)
  refine .of_counts ((Extends.subflow there free nested empty called).unambiguous h.names) ?_ ?_ ?_
  · intro b hb
    rw [hasFlow_addExecution, hasFlow_addFlow]
    rcases List.mem_append.1 (one_more.subset hb) with hb | hb
    · rw [h.hasFlow_of_called hb, Bool.true_or]
    · simp [List.mem_singleton.1 hb]
  · intro g hg
    obtain ⟨k, hk, name, top⟩ := old g hg
    rw [one_more.count_eq, List.count_append, ← name, ← top]
    rcases List.mem_append.1 hk with hk | hk
    · have other : k.aliasName ≠ f.aliasName := fun same => free (same ▸ hasFlow_of_mem hk)
      have none : [f.aliasName].count k.aliasName = 0 := List.count_eq_zero.2 (by simpa using other)
      rw [h.count_called hk, none, Nat.add_zero]
    · have new : r.called.count f.aliasName = 0 :=
        List.count_eq_zero.2 fun called => free (h.hasFlow_of_called called)
      rw [List.mem_singleton.1 hk, new, nested, List.count_singleton_self]
      rfl
  · intro g hg below
    obtain ⟨k, hk, name, top⟩ := old g hg
    rw [← name]
    rcases List.mem_append.1 hk with hk | hk
    · obtain ⟨t, ht, listed, reached⟩ := h.rooted k hk (top.trans below)
      obtain ⟨u, hu, root, still⟩ := kept t ht
      exact ⟨u, hu, still.trans listed, root ▸ reached_still reached⟩
    · -- The new flow is below whatever its parent is below.
      obtain ⟨p, found⟩ := hasFlow_iff.1 there
      obtain ⟨hp, rfl⟩ := flow?_eq_some found
      obtain ⟨t, ⟨ht, listed, reached⟩, -⟩ := h.existsUnique_root hp
      obtain ⟨u, hu, root, still⟩ := kept t ht
      refine ⟨u, hu, still.trans listed, ?_⟩
      rw [root, List.mem_singleton.1 hk]
      exact (reached_still reached).tail (calls.2 (.inr ⟨rfl, rfl⟩))

/-- A forest that is extended by a flow is one still. -/
theorem Forest.extends (h : r.Forest) (extension : r.Extends r') : r'.Forest := by
  cases extension with
  | kept same => exact h.of_shape same
  | flow free top empty => exact h.addFlow free top empty
  | subflow there free nested empty called => exact h.addSubflow there free nested empty called

/-! ## Subtrees -/

/-- Of two flows that one calls for, neither is below the other. -/
theorem Forest.eq_of_reaches_called (h : r.Forest) (first : r.Calls a b) (second : r.Calls a c)
    (reached : r.Reaches b c) : c = b := by
  rcases reached.cases_tail with same | ⟨e, back, called⟩
  · exact same
  · obtain rfl := h.calls_unique called second
    exact absurd (.head' first back) (h.ends e).no_circle

theorem Forest.nodup_calledBy (h : r.Forest) (a : String) : (r.calledBy a).Nodup := by
  cases found : r.flow? a with
  | none =>
    rw [calledBy_of_none found]
    exact .nil
  | some f =>
    have among : f.nested.Sublist r.called :=
      List.sublist_flatten_of_mem (List.mem_map_of_mem (flow?_eq_some found).1)
    rw [calledBy_of_flow? found, List.nodup_iff_count_le_one]
    exact fun b => Nat.le_trans (among.count_le b) (h.count_called_le b)

/-- No alias is come to twice. -/
theorem Forest.nodup_aliasesFrom (h : r.Forest) (n : Nat) (a : String) :
    (r.aliasesFrom n a).Nodup := by
  induction n generalizing a with
  | zero => exact .nil
  | succ n ih =>
    rw [aliasesFrom_succ, List.nodup_cons, List.nodup_flatMap]
    refine ⟨fun again => ?_, fun b _ => ih b, ?_⟩
    · obtain ⟨b, called, mem⟩ := List.mem_flatMap.1 again
      exact (h.ends a).no_circle (.head' called (reaches_of_mem_aliasesFrom mem))
    · refine (h.nodup_calledBy a).imp_of_mem fun {b c} first second differ x left right => differ ?_
      rcases h.reaches_or (reaches_of_mem_aliasesFrom left) (reaches_of_mem_aliasesFrom right) with
        down | up
      · exact (h.eq_of_reaches_called first second down).symm
      · exact h.eq_of_reaches_called second first up

/-! ## Deleting -/

section Removed

variable {t : FlowRecord}

theorem Forest.mem_removed (h : r.Forest) :
    f ∈ (r.removeFlows (r.aliasesBelow a)).flows ↔ f ∈ r.flows ∧ ¬r.Reaches a f.aliasName := by
  rw [removeFlows, List.mem_filter, ← mem_aliasesBelow (h.ends a)]
  simp [List.contains_eq_mem]

theorem Forest.flow?_removed (h : r.Forest) (apart : ¬r.Reaches a b) :
    (r.removeFlows (r.aliasesBelow a)).flow? b = r.flow? b := by
  rw [flow?_removeFlows, if_neg fun below => apart ((mem_aliasesBelow (h.ends a)).1 below)]

/-- What is not below the flow is come to as before. -/
theorem Forest.reaches_removed (h : r.Forest) (apart : ¬r.Reaches a c) (reached : r.Reaches b c) :
    (r.removeFlows (r.aliasesBelow a)).Reaches b c := by
  induction reached with
  | refl => exact .refl
  | @tail e c _ called ih =>
    have above : ¬r.Reaches a e := fun below => apart (below.tail called)
    exact (ih above).tail ((calls_congr (h.flow?_removed above)).2 called)

/-- A forest is one still when a tree of it is gone. -/
theorem Forest.removed (h : r.Forest) (ht : t ∈ r.flows) (top : t.topLevel = true) :
    (r.removeFlows (r.aliasesBelow t.aliasName)).Forest := by
  have fewer : (r.removeFlows (r.aliasesBelow t.aliasName)).flows.Sublist r.flows :=
    List.filter_sublist
  have fewer_called : (r.removeFlows (r.aliasesBelow t.aliasName)).called.Sublist r.called :=
    fewer.flatMap _
  refine .of_counts ((fewer.map _).nodup h.names) ?_ ?_ ?_
  · intro b hb
    obtain ⟨f, hf, mem⟩ := mem_called.1 hb
    obtain ⟨hf, apart⟩ := h.mem_removed.1 hf
    have called := h.calls_of_mem_nested hf mem
    have apart_below := h.not_reaches_of_listed ht top apart (.single called)
    rw [hasFlow, h.flow?_removed apart_below]
    exact h.closed f hf b mem
  · intro f hf
    obtain ⟨hf, apart⟩ := h.mem_removed.1 hf
    have before := h.count_called hf
    have upto := fewer_called.count_le f.aliasName
    split at before
    · next listed =>
      rw [if_pos listed]
      omega
    · next nested =>
      -- The flow that calls for it is above it, hence not below the flow that is gone.
      have called : f.aliasName ∈ r.called := List.count_pos_iff.1 (by omega)
      obtain ⟨g, hg, mem⟩ := mem_called.1 called
      have kept : g ∈ (r.removeFlows (r.aliasesBelow t.aliasName)).flows :=
        h.mem_removed.2 ⟨hg, fun below => apart (below.tail (h.calls_of_mem_nested hg mem))⟩
      have still := List.count_pos_iff.2 (mem_called.2 ⟨g, kept, mem⟩)
      rw [if_neg nested]
      omega
  · intro f hf nested
    obtain ⟨hf, apart⟩ := h.mem_removed.1 hf
    obtain ⟨u, hu, listed, reached⟩ := h.rooted f hf nested
    exact ⟨u, h.mem_removed.2 ⟨hu, fun below => apart (below.trans reached)⟩, listed,
      h.reaches_removed apart reached⟩

/-- No listing changes but those of the flows that are gone. -/
theorem Forest.listing_removed (h : r.Forest) (ht : t ∈ r.flows) (top : t.topLevel = true)
    (apart : ¬r.Reaches t.aliasName a) :
    (r.removeFlows (r.aliasesBelow t.aliasName)).listing a = r.listing a :=
  listing_congr (h.ends a) fun _ reached =>
    h.flow?_removed (h.not_reaches_of_listed ht top apart reached)

end Removed

end RealmFlows

namespace FlowDesk

variable {d : FlowDesk} {source dest a : String} {f g : FlowRecord}

/-! ## Copying -/

theorem nested_copyRecords (source dest : String) (issued : Nat) (fs : List FlowRecord) :
    (copyRecords source dest issued fs).flatMap FlowRecord.nested =
      (fs.flatMap FlowRecord.nested).map (renamed source dest) := by
  induction fs generalizing issued with
  | nil => rfl
  | cons f fs ih =>
    rw [copyRecords, List.flatMap_cons, List.flatMap_cons, List.map_append, ih, nested_copyRecord]

/-- The flows below one, in the order in which they are come to. -/
def recordsBelow (d : FlowDesk) (a : String) : List FlowRecord :=
  (d.realm.aliasesBelow a).filterMap d.realm.flow?

theorem called_copied (d : FlowDesk) (source dest : String) :
    (d.copied source dest).realm.called = d.realm.called ++
      ((d.recordsBelow source).flatMap FlowRecord.nested).map (renamed source dest) := by
  rw [RealmFlows.called, copied, List.flatMap_append, copies, nested_copyRecords]
  rfl

theorem mem_recordsBelow (h : d.realm.Forest) :
    g ∈ d.recordsBelow a ↔ g ∈ d.realm.flows ∧ d.realm.Reaches a g.aliasName := by
  rw [recordsBelow, List.mem_filterMap]
  constructor
  · rintro ⟨b, hb, found⟩
    obtain ⟨hg, rfl⟩ := RealmFlows.flow?_eq_some found
    exact ⟨hg, RealmFlows.reaches_of_mem_aliasesFrom hb⟩
  · rintro ⟨hg, reached⟩
    obtain ⟨k, found⟩ := RealmFlows.hasFlow_iff.1 (RealmFlows.hasFlow_of_mem hg)
    obtain rfl := h.eq_of_flow? found hg rfl
    exact ⟨g.aliasName, (RealmFlows.mem_aliasesBelow (h.ends a)).2 reached, found⟩

theorem nodup_recordsBelow (h : d.realm.Forest) (a : String) : (d.recordsBelow a).Nodup := by
  have names : ((d.recordsBelow a).map FlowRecord.aliasName).Nodup := by
    rw [recordsBelow, RealmFlows.aliases_filterMap_flow?]
    exact (h.nodup_aliasesFrom _ a).filter _
  exact names.of_map

/-- Among the flows below one, it is called for by none and every other by one. -/
theorem count_nested_recordsBelow (h : d.realm.Forest) (hg : g ∈ d.recordsBelow a) :
    ((d.recordsBelow a).flatMap FlowRecord.nested).count g.aliasName =
      if g.aliasName = a then 0 else 1 := by
  obtain ⟨hg, reached⟩ := (mem_recordsBelow h).1 hg
  split
  · next same =>
    rw [List.count_eq_zero, List.mem_flatMap]
    rintro ⟨f, hf, mem⟩
    obtain ⟨hf, below⟩ := (mem_recordsBelow h).1 hf
    have back := h.calls_of_mem_nested hf mem
    rw [same] at back
    exact (h.ends a).no_circle (.tail' below back)
  · next other =>
    have among : ((d.recordsBelow a).flatMap FlowRecord.nested).Subperm d.realm.called := by
      obtain ⟨l, perm, fewer⟩ := List.subperm_iff.1
        ((nodup_recordsBelow h a).subperm fun f hf => ((mem_recordsBelow h).1 hf).1)
      exact List.subperm_iff.2 ⟨_, perm.flatMap_right _, fewer.flatMap _⟩
    have upto := Nat.le_trans (among.count_le g.aliasName) (h.count_called_le g.aliasName)
    rcases reached.cases_tail with same | ⟨c, below, called⟩
    · exact absurd same other
    · obtain ⟨f, hf, rfl, mem⟩ := called.exists_flow
      have some := List.count_pos_iff.2
        (List.mem_flatMap.2 ⟨f, (mem_recordsBelow h).2 ⟨hf, below⟩, mem⟩)
      omega

/-- Copies under unused aliases are a tree beside the others. -/
theorem forest_copied (h : d.realm.Forest) (makes : d.MakesCopy source dest)
    (unused : ∀ a ∈ d.realm.aliasesBelow source, ¬d.realm.hasFlow (renamed source dest a) = true) :
    (d.copied source dest).realm.Forest := by
  have ends := h.ends source
  have free : ∀ a, d.realm.Reaches source a → ¬d.realm.hasFlow (renamed source dest a) = true :=
    fun a reached => unused a ((RealmFlows.mem_aliasesBelow ends).2 reached)
  have apart : d.CopiesApart source dest :=
    ⟨(h.nodup_aliasesFrom _ source).filter _, fun a ha => unused a (List.mem_filter.1 ha).1⟩
  have there : ∀ a, d.realm.hasFlow a = true → (d.copied source dest).realm.hasFlow a = true := by
    intro a there
    rwa [RealmFlows.hasFlow, flow?_copied_of_hasFlow there]
  have calls : ∀ u v, d.realm.Calls u v → (d.copied source dest).realm.Calls u v := fun u v called =>
    (RealmFlows.calls_congr (flow?_copied_of_hasFlow called.hasFlow)).2 called
  have injective : Function.Injective (renamed source dest) := fun a b same => renamed_inj same
  -- What is called for by a copy is the alias of a copy.
  have called_below : ∀ b ∈ (d.recordsBelow source).flatMap FlowRecord.nested,
      d.realm.Reaches source b ∧ d.realm.hasFlow b = true := by
    intro b hb
    obtain ⟨g, hg, mem⟩ := List.mem_flatMap.1 hb
    obtain ⟨hg, reached⟩ := (mem_recordsBelow h).1 hg
    exact ⟨reached.tail (h.calls_of_mem_nested hg mem), h.closed g hg b mem⟩
  have copy_of : ∀ b, d.realm.Reaches source b → d.realm.hasFlow b = true →
      ∃ f ∈ (d.copied source dest).realm.flows,
        f.aliasName = renamed source dest b ∧ f.topLevel = (b == source) := by
    intro b reached there
    obtain ⟨g, found⟩ := RealmFlows.hasFlow_iff.1 there
    obtain ⟨n, mem⟩ := exists_mem_copies ends reached found dest
    obtain ⟨-, rfl⟩ := RealmFlows.flow?_eq_some found
    exact ⟨_, List.mem_append_right _ mem, rfl, rfl⟩
  refine .of_counts ((unambiguous_copied_iff h.names).2 apart) ?_ ?_ ?_
  · intro b hb
    rw [called_copied] at hb
    rcases List.mem_append.1 hb with hb | hb
    · exact there b (h.hasFlow_of_called hb)
    · obtain ⟨c, hc, rfl⟩ := List.mem_map.1 hb
      obtain ⟨reached, present⟩ := called_below c hc
      obtain ⟨f, hf, name, -⟩ := copy_of c reached present
      exact name ▸ RealmFlows.hasFlow_of_mem hf
  · intro f hf
    rw [called_copied, List.count_append]
    rcases List.mem_append.1 hf with hf | hf
    · have new : f.aliasName ∉
          ((d.recordsBelow source).flatMap FlowRecord.nested).map (renamed source dest) := by
        intro mem
        obtain ⟨b, hb, same⟩ := List.mem_map.1 mem
        exact free b (called_below b hb).1 (same ▸ RealmFlows.hasFlow_of_mem hf)
      rw [h.count_called hf, List.count_eq_zero.2 new, Nat.add_zero]
    · obtain ⟨a, g, n, reached, found, rfl⟩ := mem_copies hf
      obtain ⟨hg, rfl⟩ := RealmFlows.flow?_eq_some found
      have new : renamed source dest g.aliasName ∉ d.realm.called := fun called =>
        free g.aliasName reached (h.hasFlow_of_called called)
      have below : g ∈ d.recordsBelow source := (mem_recordsBelow h).2 ⟨hg, reached⟩
      rw [copyRecord, List.count_eq_zero.2 new, Nat.zero_add,
        List.count_map_of_injective _ _ injective, count_nested_recordsBelow h below]
      simp only [beq_iff_eq]
  · intro f hf nested
    rcases List.mem_append.1 hf with hf | hf
    · obtain ⟨t, ht, top, reached⟩ := h.rooted f hf nested
      exact ⟨t, List.mem_append_left _ ht, top, reached.mono calls⟩
    · obtain ⟨a, reached, name⟩ := aliasName_of_mem_copies hf
      obtain ⟨t, ht, root, top⟩ := copy_of source .refl makes.2
      refine ⟨t, ht, top.trans (beq_self_eq_true source), ?_⟩
      rw [root, renamed_self, name]
      exact reaches_copied ends free reached

end FlowDesk

end RealmSetup
