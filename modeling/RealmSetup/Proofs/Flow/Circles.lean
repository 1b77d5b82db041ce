import RealmSetup.Proofs.Flow.Shapes

/-!
# Recursions along the nesting of flows

Listings and subtrees are read off a realm by following aliases down, and nothing in a realm keeps this
from going in a circle.  `ListsTo` and `GathersTo` are these recursions without a bound on their depth;
they come to an end just where the nesting does (`listsTo_iff`, `gathersTo_iff`), and then with what the
bounded ones yield.

A new flow calls for nothing yet, and deletions only take calls away, so that requests of these kinds
make no circle, though they may leave aliases behind that name no flow.  Copies make none as long as no
alias below the source, be it of a flow or not, is copied to one that is taken
(`ends_after_unused_copies`).  Where one is, the copies may join flows that lead back to them
(`after_copy_circle`).
-/

namespace RealmSetup

namespace RealmFlows

variable {r r' : RealmFlows} {a b : String} {level : Nat} {rows : List Execution}

/-! ## Recursions without a bound -/

/-- The rows below a flow, however deep they lie. -/
inductive ListsTo (r : RealmFlows) : String → Nat → List Execution → Prop
  /-- An alias that names no flow has none. -/
  | absent {a : String} {level : Nat} (missing : r.flow? a = none) : r.ListsTo a level []
  /-- Each execution has its row, and after it those of the flow it calls for. -/
  | flow {a : String} {level : Nat} {f : FlowRecord} (found : r.flow? a = some f)
      (below : String → List Execution) (nested : ∀ b ∈ f.nested, r.ListsTo b (level + 1) (below b)) :
      r.ListsTo a level (f.executions.zipIdx.flatMap fun p =>
        r.row level p.2 p.1 :: p.1.nested?.elim [] below)

/-- An alias and the aliases nested under it, however deep they lie. -/
inductive GathersTo (r : RealmFlows) : String → List String → Prop
  | intro {a : String} (below : String → List String)
      (nested : ∀ b ∈ r.calledBy a, r.GathersTo b (below b)) :
      r.GathersTo a (a :: (r.calledBy a).flatMap below)

theorem ListsTo.ends (h : r.ListsTo a level rows) : r.Ends a := by
  induction h with
  | absent missing => exact ends_of_none missing
  | flow found below nested ih =>
    refine Acc.intro _ fun b called => ih b ?_
    rwa [Calls, calledBy_of_flow? found] at called

theorem ListsTo.eq_rowsFrom (h : r.ListsTo a level rows) {n : Nat} (deep : r.EndsWithin n a) :
    rows = r.rowsFrom n a level := by
  induction h generalizing n with
  | absent missing => exact (rowsFrom_of_none missing).symm
  | @flow a level f found below nested ih =>
    cases n with
    | zero => exact deep.elim
    | succ n =>
      rw [rowsFrom_succ found]
      refine List.flatMap_congr fun p hp => ?_
      cases called : p.1.nested? with
      | none => rfl
      | some b =>
        have hx := List.fst_mem_of_mem_zipIdx hp
        have hb : b ∈ f.nested := mem_nested_iff.2 ⟨p.1, hx, called⟩
        rw [Option.elim_some, Option.elim_some, ih b hb (deep b (calls_of_mem found hx called))]

theorem EndsWithin.listsTo {n : Nat} (deep : r.EndsWithin n a) (level : Nat) :
    r.ListsTo a level (r.rowsFrom n a level) := by
  induction n generalizing a level with
  | zero => exact deep.elim
  | succ n ih =>
    cases found : r.flow? a with
    | none =>
      rw [rowsFrom_of_none found]
      exact .absent found
    | some f =>
      rw [rowsFrom_succ found]
      refine .flow found _ fun b hb => ih (deep b ?_) (level + 1)
      rwa [calledBy_of_flow? found]

/-- Listing without a bound ends just where the nesting does, with the rows listed before. -/
theorem listsTo_iff : r.ListsTo a level rows ↔ r.Ends a ∧ rows = r.rowsFrom r.depthBound a level := by
  constructor
  · exact fun h => ⟨h.ends, h.eq_rowsFrom h.ends.endsWithin⟩
  · rintro ⟨ends, rfl⟩
    exact ends.endsWithin.listsTo level

theorem GathersTo.ends {names : List String} (h : r.GathersTo a names) : r.Ends a := by
  induction h with
  | intro below nested ih => exact Acc.intro _ ih

theorem GathersTo.eq_aliasesFrom {names : List String} (h : r.GathersTo a names) {n : Nat}
    (deep : r.EndsWithin n a) : names = r.aliasesFrom n a := by
  induction h generalizing n with
  | intro below nested ih =>
    cases n with
    | zero => exact deep.elim
    | succ n =>
      rw [aliasesFrom_succ]
      exact congrArg _ (List.flatMap_congr fun b called => ih b called (deep b called))

theorem EndsWithin.gathersTo {n : Nat} (deep : r.EndsWithin n a) :
    r.GathersTo a (r.aliasesFrom n a) := by
  induction n generalizing a with
  | zero => exact deep.elim
  | succ n ih =>
    rw [aliasesFrom_succ]
    exact .intro _ fun b called => ih (deep b called)

/-- Gathering without a bound ends just where the nesting does, with the aliases gathered before. -/
theorem gathersTo_iff {names : List String} :
    r.GathersTo a names ↔ r.Ends a ∧ names = r.aliasesBelow a := by
  constructor
  · exact fun h => ⟨h.ends, h.eq_aliasesFrom h.ends.endsWithin⟩
  · rintro ⟨ends, rfl⟩
    exact ends.endsWithin.gathersTo

/-! ## What keeps the nesting from going in a circle -/

/-- Following aliases down comes to an end wherever it begins. -/
def AllEnd (r : RealmFlows) : Prop := ∀ a, r.Ends a

theorem Extends.allEnd (h : r.Extends r') (ends : r.AllEnd) : r'.AllEnd := by
  intro a
  cases h with
  | kept same =>
    rw [Ends, calls_of_shape same]
    exact ends a
  | flow free top empty => exact (ends a).of_calls fun u v called => .inl ((calls_addFlow empty).1 called)
  | @subflow f parent x there free nested empty called =>
    have calls : ∀ {u v}, ((r.addFlow f).addExecution parent x).Calls u v ↔
        r.Calls u v ∨ (u = parent ∧ v = f.aliasName) := calls_addSubflow there empty called
    refine (ends a).of_calls fun u v called => (calls.1 called).imp_right ?_
    -- The one call that is new is for a flow that calls for nothing.
    rintro ⟨-, rfl⟩
    refine Acc.intro _ fun b called => ?_
    rcases calls.1 called with before | ⟨rfl, -⟩
    · exact absurd before.hasFlow free
    · exact absurd there free

end RealmFlows

namespace FlowDesk

variable {d : FlowDesk} {source dest : String}

/-- Copies under names that are free call for each other alone, and flows that were there call for what
they called for. -/
theorem allEnd_copied (ends : d.realm.AllEnd)
    (free : ∀ a, d.realm.Reaches source a → ¬d.realm.hasFlow (renamed source dest a) = true) :
    (d.copied source dest).realm.AllEnd := by
  intro a
  have copies : ∀ b, d.realm.Reaches source b →
      (d.copied source dest).realm.Ends (renamed source dest b) := fun b reached =>
    (ends_copied (ends source) free).reaches (reaches_copied (ends source) free reached)
  induction ends a with
  | intro a _ ih =>
    by_cases there : d.realm.hasFlow a = true
    · refine Acc.intro a fun b called => ih b ?_
      exact (RealmFlows.calls_congr (flow?_copied_of_hasFlow there)).1 called
    · by_cases copy : ∃ b, d.realm.Reaches source b ∧ a = renamed source dest b
      · obtain ⟨b, reached, rfl⟩ := copy
        exact copies b reached
      · have other := flow?_copied_of_ne fun b reached same => copy ⟨b, reached, same⟩
        exact RealmFlows.ends_of_none (other.trans (RealmFlows.not_hasFlow.1 there))

/-- A request does not copy anything under an alias that is taken. -/
def DerivesUnused (d : FlowDesk) : Remote.Op → Prop
  | .copyFlow source dest => d.MakesCopy source dest →
      ∀ a ∈ d.realm.aliasesBelow source, ¬d.realm.hasFlow (renamed source dest a) = true
  | _ => True

/-- Such a request keeps the nesting from going in a circle. -/
theorem allEnd_serve (ends : d.realm.AllEnd) {op : Remote.Op} (unused : d.DerivesUnused op) :
    (d.serve op).2.realm.AllEnd := by
  refine serve_keeps ends op (fun r extension => extension.allEnd ends) ?_ fun f _ a => ?_
  · rintro source dest rfl makes
    exact allEnd_copied ends fun a reached =>
      unused makes a ((RealmFlows.mem_aliasesBelow (ends source)).2 reached)
  · exact (ends a).of_calls fun u v called => .inl (RealmFlows.calls_removeFlows called)

end FlowDesk

namespace MemoryServer

open Relation (TransGen)

/-- As long as copies are made under unused aliases alone, no flow is below itself in any realm, whatever
flows are deleted, and all that follows aliases down comes to an end. -/
theorem ends_after_unused_copies (stock : Bool) {calls : List Remote.Call}
    (unused : Throughout FlowDesk.DerivesUnused (start stock) calls) (realm a : String) :
    let r := (((start stock).after calls).desk realm).realm
    ¬TransGen r.Calls a a ∧ r.ListsTo a 0 (r.listing a) ∧ r.GathersTo a (r.aliasesBelow a) := by
  have begins : ∀ stock issued, (FlowDesk.fresh stock issued).realm.AllEnd := fun stock issued =>
    (RealmFlows.forest_fresh stock issued).ends
  have ends := unused.keeps begins (fun d op ends unused => FlowDesk.allEnd_serve ends unused)
    (fun _ => begins stock 0) realm a
  exact ⟨ends.no_circle, RealmFlows.listsTo_iff.2 ⟨ends, rfl⟩, RealmFlows.gathersTo_iff.2 ⟨ends, rfl⟩⟩

/-- A flow of a copy is deleted and created anew, and the copy is copied again. -/
def recopied : List Remote.Call :=
  [⟨"acme", .copyFlow "browser" "first"⟩, ⟨"acme", .deleteFlow "flow-17"⟩,
    ⟨"acme", .createFlow "first forms" "" .basic⟩, ⟨"acme", .addSubflow "first forms" "extra" .basic⟩,
    ⟨"acme", .copyFlow "first" "second"⟩]

theorem ends_after_recopied :
    Throughout FlowDesk.DerivesUnused (start true) recopied ∧
      let r := (((start true).after recopied).desk "acme").realm
      ¬TransGen r.Calls "second" "second" ∧ r.ListsTo "second" 0 (r.listing "second") ∧
        r.GathersTo "second" (r.aliasesBelow "second") := by
  have unused : Throughout FlowDesk.DerivesUnused (start true) recopied := by
    refine ⟨?_, trivial, trivial, trivial, ?_, trivial⟩
    · show _ → ∀ a ∈ _, ¬_
      decide +kernel
    · show _ → ∀ a ∈ _, ¬_
      decide +kernel
  exact ⟨unused, ends_after_unused_copies true unused "acme" "second"⟩

/-- Where an alias below the source is copied to one that is taken, the copy may be below itself: the
flow of that name calls for the copy, as it did for an earlier flow of its name. -/
theorem after_copy_circle :
    ¬∀ s : MemoryServer, s.Reached → ∀ realm a, ¬TransGen (s.desk realm).realm.Calls a a := by
  intro never
  let calls : List Remote.Call :=
    [⟨"demo", .createFlow "d x" "" .basic⟩, ⟨"demo", .addSubflow "d x" "d" .basic⟩,
      ⟨"demo", .deleteFlow "flow-2"⟩, ⟨"demo", .createFlow "s" "" .basic⟩,
      ⟨"demo", .addSubflow "s" "x" .basic⟩, ⟨"demo", .copyFlow "s" "d"⟩]
  have down : "d x" ∈ (((start false).after calls).desk "demo").realm.calledBy "d" := by decide +kernel
  have back : "d" ∈ (((start false).after calls).desk "demo").realm.calledBy "d x" := by decide +kernel
  exact never _ ((Reached.start false).after calls) "demo" "d" (.tail (.single down) back)

end MemoryServer

end RealmSetup
