import RealmSetup.Proofs.Flow.Forest
import RealmSetup.Proofs.Flow.Growth

/-!
# Creating, copying, binding and deleting flows

The steps of a builder that concern whole flows, with the desks they pass through.  A builder deletes a
flow by its alias, but only one in the listing of the realm, with all that is come to from it.
`FlowDesk.without` is the desk this leaves; where identifiers are told apart, a builder always comes to
it (`FlowDesk.run_deleteFlow_of_numbered`).
-/

namespace RealmSetup

/-- Whether an alias is that of a flow in the listing of a realm. -/
def RealmFlows.isListed (r : RealmFlows) (a : String) : Bool :=
  (r.topLevelFlows.find? fun f => f.aliasName = a).isSome

namespace FlowDesk

variable {d : FlowDesk} {Inv : FlowDesk → Prop} {a : String}

/-! ## Creating, copying and binding -/

/-- The course of creating a flow. -/
theorem along_createFlow (realm a description : String) (kind : FlowKind) (before : Inv d)
    (after : Inv (d.createFlow a description kind).2) :
    Along Inv (fun _ d' => d' = (d.createFlow a description kind).2)
      (Builder.createFlow realm a description kind) d :=
  along_observe (Attempt.along_bind (along_ask before after fun _ _ =>
    Attempt.along_bind (along_logged after (Attempt.along_pure after rfl))))

/-- The course of copying a flow. -/
theorem along_copyFlow (realm source dest : String) (before : Inv d)
    (made : ∀ creation d', d.copyFlow source dest = .ok (creation, d') → Inv d') :
    Along Inv (fun _ d' => ∃ creation, d.copyFlow source dest = .ok (creation, d'))
      (Builder.copyFlow realm source dest) d := by
  refine along_observe (Attempt.along_bind ?_)
  cases result : d.copyFlow source dest with
  | error e =>
    have served : d.serve (.copyFlow source dest) = (.error e, d) := by rw [serve, result]
    refine along_ask before (served.symm ▸ before) fun _ ok => ?_
    rw [served] at ok
    cases ok
  | ok ended =>
    obtain ⟨creation, d'⟩ := ended
    have served : d.serve (.copyFlow source dest) = (.ok creation, d') := by rw [serve, result]
    have after : Inv d' := made creation d' result
    refine along_ask before (served.symm ▸ after) fun _ _ => ?_
    rw [served]
    exact Attempt.along_bind (along_logged after (Attempt.along_pure after ⟨creation, rfl⟩))

/-- The course of binding a flow. -/
theorem along_bindAsEntryPoint (realm a : String) (before : Inv d)
    (after : Inv (d.serve (.bindBrowserFlow a)).2) :
    Along Inv (fun _ _ => True) (Builder.bindAsEntryPoint realm a) d :=
  along_observe (Attempt.along_bind (along_ask before after fun _ _ => along_logged after trivial))

/-! ## Deleting -/

/-- The desk without a flow and all that is come to from it. -/
def cleared (d : FlowDesk) (a : String) : FlowDesk :=
  { d with realm := d.realm.removeFlows (d.realm.aliasesBelow a) }

/-- The desk when an earlier flow of a name is deleted: only one in the listing of the realm is. -/
def without (d : FlowDesk) (a : String) : FlowDesk := if d.realm.isListed a then d.cleared a else d

theorem deleteFlow_of_mem (h : d.Numbered) {f : FlowRecord} (hf : f ∈ d.realm.flows) :
    d.deleteFlow f.id = .ok (d.cleared f.aliasName) := by
  have found : d.realm.flows.find? (fun g => g.id = f.id) = some f := by
    cases hit : d.realm.flows.find? fun g => g.id = f.id with
    | none => simpa using List.find?_eq_none.1 hit f hf
    | some g =>
      have same : g.id = f.id := by simpa using List.find?_some hit
      rw [List.inj_on_of_nodup_map h.flows_nodup (List.mem_of_find?_eq_some hit) hf same]
  unfold FlowDesk.deleteFlow
  rw [found]
  rfl

/-- The course of deleting an earlier flow. -/
theorem along_deleteFlow (h : d.Numbered) (realm : String) (before : Inv d) (after : Inv (d.without a)) :
    Along Inv (fun _ d' => d' = d.without a) (Builder.deleteFlow realm a) d := by
  refine along_observe (Attempt.along_bind (along_ask before before ?_))
  rintro flows ⟨⟩
  have by_alias : ((fun f : FlowSummary => decide (f.aliasName = a)) ∘ FlowRecord.summary) =
      fun f => decide (f.aliasName = a) := rfl
  rw [List.find?_map, by_alias]
  unfold without RealmFlows.isListed at *
  cases hit : d.realm.topLevelFlows.find? fun f => decide (f.aliasName = a) with
  | none => exact Attempt.along_bind (along_logged before (Attempt.along_pure before rfl))
  | some f =>
    obtain ⟨hf, -⟩ := List.mem_filter.1 (List.mem_of_find?_eq_some hit)
    have name : f.aliasName = a := by simpa using List.find?_some hit
    have served : (d.serve (.deleteFlow f.id)).2 = d.cleared a := by
      show (d.settle (d.deleteFlow f.id)).2 = d.cleared a
      rw [deleteFlow_of_mem h hf, name]
      rfl
    rw [hit] at after
    refine Attempt.along_bind (along_ask before (served.symm ▸ after) fun _ _ => ?_)
    exact Attempt.along_pure (served.symm ▸ after) served

theorem run_deleteFlow_of_numbered (h : d.Numbered) (realm a : String) :
    run (Builder.deleteFlow realm a) d = (.ok (d.realm.isListed a), d.without a) := by
  rw [run_deleteFlow]
  unfold without RealmFlows.isListed
  cases hit : d.realm.topLevelFlows.find? fun f => decide (f.aliasName = a) with
  | none => rfl
  | some f =>
    obtain ⟨hf, -⟩ := List.mem_filter.1 (List.mem_of_find?_eq_some hit)
    have name : f.aliasName = a := by simpa using List.find?_some hit
    simp only [deleteFlow_of_mem h hf, name]
    rfl

theorem Numbered.without (h : d.Numbered) (a : String) : (d.without a).Numbered := by
  have kept := h.run (Builder.deleteFlow "" a)
  rwa [run_deleteFlow_of_numbered h] at kept

theorem isListed_iff {r : RealmFlows} :
    r.isListed a = true ↔ ∃ f ∈ r.flows, f.topLevel = true ∧ f.aliasName = a := by
  simp [RealmFlows.isListed, RealmFlows.topLevelFlows, List.find?_isSome]

/-- A flow is gone when it was below one that is listed, and is as it was otherwise. -/
theorem flow?_without (d : FlowDesk) (a b : String) :
    (d.without a).realm.flow? b =
      if d.realm.isListed a = true ∧ b ∈ d.realm.aliasesBelow a then none else d.realm.flow? b := by
  unfold without
  by_cases listed : d.realm.isListed a = true
  · rw [if_pos listed, cleared, RealmFlows.flow?_removeFlows]
    simp only [listed, true_and]
  · rw [if_neg listed, if_neg fun doomed => listed doomed.1]

theorem hasFlow_without_iff {b : String} :
    (d.without a).realm.hasFlow b = true ↔
      d.realm.hasFlow b = true ∧ ¬(d.realm.isListed a = true ∧ b ∈ d.realm.aliasesBelow a) := by
  rw [RealmFlows.hasFlow_iff, RealmFlows.hasFlow_iff, flow?_without]
  split
  · next doomed => simp [doomed]
  · next kept => simp [kept]

/-- Where a flow with the alias would be listed, there is none once it is cleared. -/
theorem not_hasFlow_without (top : ∀ f ∈ d.realm.flows, f.aliasName = a → f.topLevel = true) :
    ¬(d.without a).realm.hasFlow a = true := by
  intro there
  obtain ⟨before, kept⟩ := hasFlow_without_iff.1 there
  obtain ⟨f, found⟩ := RealmFlows.hasFlow_iff.1 before
  obtain ⟨hf, name⟩ := RealmFlows.flow?_eq_some found
  exact kept ⟨isListed_iff.2 ⟨f, hf, top f hf name, name⟩, RealmFlows.self_mem_aliasesBelow d.realm a⟩

theorem calls_without {b c : String} (called : (d.without a).realm.Calls b c) : d.realm.Calls b c := by
  unfold without at called
  split at called
  · exact RealmFlows.calls_removeFlows called
  · exact called

theorem configs_without (d : FlowDesk) (a : String) :
    (d.without a).realm.configs = d.realm.configs := by
  unfold without
  split <;> rfl

theorem issued_without (d : FlowDesk) (a : String) : (d.without a).issued = d.issued := by
  unfold without
  split <;> rfl

end FlowDesk

end RealmSetup
