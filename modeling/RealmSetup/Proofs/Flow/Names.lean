import RealmSetup.Proofs.Flow.Shapes

/-!
# Aliases told apart

A flow is found by its alias, the first with it, so that of two flows with one alias all calls concern
the first.  Requests that create one flow refuse an alias that is taken.  A request for a copy creates
a flow for everything below its source but asks about the first of the names only, so that it keeps
aliases apart exactly if the copies have names of their own (`FlowDesk.CopiesApart`).

A server therefore tells all aliases apart as long as every copy that it made was such a one, and no
longer (`MemoryServer.unambiguous_iff_copiesApart`).
-/

namespace RealmSetup

namespace RealmFlows

variable {r r' : RealmFlows}

/-- No two flows have one alias. -/
def Unambiguous (r : RealmFlows) : Prop := (r.flows.map FlowRecord.aliasName).Nodup

instance (r : RealmFlows) : Decidable r.Unambiguous := inferInstanceAs (Decidable (List.Nodup _))

/-- The aliases below one that are those of flows, in the order in which they are come to. -/
def flowsBelow (r : RealmFlows) (a : String) : List String := (r.aliasesBelow a).filter r.hasFlow

theorem aliases_filterMap_flow? (names : List String) :
    (names.filterMap r.flow?).map FlowRecord.aliasName = names.filter r.hasFlow := by
  induction names with
  | nil => rfl
  | cons a names ih =>
    cases found : r.flow? a with
    | none =>
      have absent : ¬r.hasFlow a = true := not_hasFlow.2 found
      rw [List.filterMap_cons_none found, List.filter_cons_of_neg absent, ih]
    | some f =>
      have there : r.hasFlow a = true := hasFlow_iff.2 ⟨f, found⟩
      rw [List.filterMap_cons_some found, List.filter_cons_of_pos there, List.map_cons, ih,
        (flow?_eq_some found).2]

/-- A flow that joins a realm has an alias of its own. -/
theorem Extends.unambiguous (h : r.Extends r') (apart : r.Unambiguous) : r'.Unambiguous := by
  have joined : ∀ {f : FlowRecord}, ¬r.hasFlow f.aliasName = true → (r.addFlow f).Unambiguous := by
    intro f free
    rw [hasFlow_iff_mem] at free
    rw [Unambiguous, addFlow, List.map_append, List.map_singleton]
    exact List.nodup_append_comm.1 (apart.cons free)
  cases h with
  | kept same =>
    rw [Unambiguous, aliases_of_shape same]
    exact apart
  | flow free top empty => exact joined free
  | @subflow f parent x there free nested empty called =>
    have names : ((r.addFlow f).addExecution parent x).flows.map FlowRecord.aliasName =
        (r.addFlow f).flows.map FlowRecord.aliasName := map_changeFirst fun _ _ _ => rfl
    rw [Unambiguous, names]
    exact joined free

end RealmFlows

namespace FlowDesk

variable {d : FlowDesk} {source dest : String}

/-! ## Copies -/

theorem aliases_copyRecords (source dest : String) (issued : Nat) (fs : List FlowRecord) :
    (copyRecords source dest issued fs).map FlowRecord.aliasName =
      (fs.map FlowRecord.aliasName).map (renamed source dest) := by
  induction fs generalizing issued with
  | nil => rfl
  | cons f fs ih => exact congrArg (_ :: ·) (ih _)

/-- Copies are made of the flows below the source, in order. -/
theorem aliases_copies (d : FlowDesk) (source dest : String) :
    (d.copies source dest).map FlowRecord.aliasName =
      (d.realm.flowsBelow source).map (renamed source dest) := by
  rw [copies, aliases_copyRecords, RealmFlows.aliases_filterMap_flow?]
  rfl

/-- A copy has names of its own for the flows below its source: none of them is come to twice, and no
name of a copy is that of a flow. -/
structure CopiesApart (d : FlowDesk) (source dest : String) : Prop where
  once : (d.realm.flowsBelow source).Nodup
  unused : ∀ a ∈ d.realm.flowsBelow source, ¬d.realm.hasFlow (renamed source dest a) = true

/-- Making copies keeps aliases apart exactly if the copies have names of their own. -/
theorem unambiguous_copied_iff (h : d.realm.Unambiguous) :
    (d.copied source dest).realm.Unambiguous ↔ d.CopiesApart source dest := by
  have names : (d.copied source dest).realm.flows.map FlowRecord.aliasName =
      d.realm.flows.map FlowRecord.aliasName ++ (d.realm.flowsBelow source).map (renamed source dest) := by
    rw [← aliases_copies, ← List.map_append]
    rfl
  have injective : Function.Injective (renamed source dest) := fun a b same => renamed_inj same
  rw [RealmFlows.Unambiguous, names, List.nodup_append', List.nodup_map_iff injective]
  constructor
  · rintro ⟨-, once, disjoint⟩
    refine ⟨once, fun a ha taken => ?_⟩
    exact disjoint (RealmFlows.hasFlow_iff_mem.1 taken) (List.mem_map_of_mem ha)
  · intro apart
    refine ⟨h, apart.once, fun name old new => ?_⟩
    obtain ⟨a, ha, rfl⟩ := List.mem_map.1 new
    exact apart.unused a ha (RealmFlows.hasFlow_iff_mem.2 old)

/-! ## Requests -/

/-- A request does not copy flows under names that are taken or given twice. -/
def Distinguishes (d : FlowDesk) : Remote.Op → Prop
  | .copyFlow source dest => d.MakesCopy source dest → d.CopiesApart source dest
  | _ => True

/-- A request keeps aliases apart exactly if it does not copy flows under such names. -/
theorem unambiguous_serve_iff (h : d.realm.Unambiguous) (op : Remote.Op) :
    (d.serve op).2.realm.Unambiguous ↔ d.Distinguishes op := by
  by_cases copy : ∃ source dest, op = .copyFlow source dest
  · obtain ⟨source, dest, rfl⟩ := copy
    rw [serve_copyFlow, Distinguishes]
    by_cases makes : d.MakesCopy source dest
    · rw [if_pos makes, unambiguous_copied_iff h]
      exact ⟨fun apart _ => apart, fun apart => apart makes⟩
    · rw [if_neg makes]
      exact ⟨fun _ made => absurd made makes, fun _ => h⟩
  · have allowed : d.Distinguishes op := by
      cases op with
      | copyFlow source dest => exact absurd ⟨source, dest, rfl⟩ copy
      | _ => trivial
    refine ⟨fun _ => allowed, fun _ => serve_keeps h op (fun r extension => extension.unambiguous h) ?_ ?_⟩
    · exact fun source dest same => absurd ⟨source, dest, same⟩ copy
    · exact fun f _ => (List.filter_sublist.map _).nodup h

end FlowDesk

namespace MemoryServer

theorem unambiguous_fresh (stock : Bool) (issued : Nat) :
    (FlowDesk.fresh stock issued).realm.Unambiguous :=
  (RealmFlows.forest_fresh stock issued).names

/-- Through any requests the aliases of all realms stay apart exactly as long as every copy that was
made had names of its own. -/
theorem unambiguous_iff_copiesApart (stock : Bool) (calls : List Remote.Call) :
    (∀ earlier, earlier <+: calls →
        ∀ realm, (((start stock).after earlier).desk realm).realm.Unambiguous) ↔
      Throughout FlowDesk.Distinguishes (start stock) calls :=
  along_iff_throughout unambiguous_fresh (fun op apart => FlowDesk.unambiguous_serve_iff apart op)
    (s := start stock) (fun _ => unambiguous_fresh stock 0) calls

/-- A flow that has the name of the copy of a subflow already is joined by that copy. -/
theorem after_copy_ambiguous :
    ¬∀ s : MemoryServer, s.Reached → ∀ realm, (s.desk realm).realm.Unambiguous := by
  intro apart
  let calls : List Remote.Call :=
    [⟨"demo", .createFlow "copy forms" "" .basic⟩, ⟨"demo", .copyFlow "browser" "copy"⟩]
  exact absurd (apart _ ((Reached.start true).after calls) "demo") (by decide +kernel)

end MemoryServer

end RealmSetup
