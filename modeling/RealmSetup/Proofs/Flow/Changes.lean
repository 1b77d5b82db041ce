import Mathlib.Data.List.Nodup
import RealmSetup.Flow.RealmFlows

/-!
# What a change of a realm does to its flows

Flows are found by their alias, the first of a name, while executions are found by their identifier.
For every change of a realm the lemmas here say which flow each alias names afterwards and which
executions there are, up to their order.  Where no two executions share an identifier, changing one is
the same as touching all that carry it (`changeExecution_flows`), which is easier to follow.
-/

namespace RealmSetup

/-! ## Changing the first -/

section ChangeFirst

variable {α β : Type} {p : α → Bool} {change : α → α}

/-- Where at most one element satisfies the condition, changing the first changes all. -/
theorem changeFirst_eq_map {l : List α} (h : l.Pairwise fun a b => p a = true → ¬p b = true) :
    changeFirst p change l = l.map fun a => if p a then change a else a := by
  induction l with
  | nil => rfl
  | cons a rest ih =>
    rw [List.pairwise_cons] at h
    by_cases ha : p a
    · have rest_kept : rest.map (fun b => if p b then change b else b) = rest := by
        refine (List.map_congr_left fun b hb => ?_).trans (List.map_id _)
        simp [h.1 b hb ha]
      simp [changeFirst, ha, rest_kept]
    · simp [changeFirst, ha, ih h.2]

theorem changeFirst_append_of_forall_not {l m : List α} (h : ∀ a ∈ l, ¬p a = true) :
    changeFirst p change (l ++ m) = l ++ changeFirst p change m := by
  induction l with
  | nil => rfl
  | cons a rest ih =>
    have ha : ¬p a = true := h a List.mem_cons_self
    simp [changeFirst, ha, ih fun b hb => h b (List.mem_cons_of_mem a hb)]

theorem changeFirst_of_forall_not {l : List α} (h : ∀ a ∈ l, ¬p a = true) :
    changeFirst p change l = l := by
  have onward : changeFirst p change (l ++ []) = l ++ changeFirst p change [] :=
    changeFirst_append_of_forall_not h
  rwa [changeFirst, List.append_nil] at onward

/-- What the change keeps is kept all along the list. -/
theorem map_changeFirst {f : α → β} {l : List α} (h : ∀ a ∈ l, p a = true → f (change a) = f a) :
    (changeFirst p change l).map f = l.map f := by
  induction l with
  | nil => rfl
  | cons a rest ih =>
    have rest_kept := ih fun b hb => h b (List.mem_cons_of_mem a hb)
    by_cases ha : p a
    · simp [changeFirst, ha, h a List.mem_cons_self ha]
    · simp [changeFirst, ha, rest_kept]

/-- Elements outside a condition that the changed one does not satisfy stay as they are. -/
theorem filter_changeFirst {q : α → Bool} {l : List α}
    (h : ∀ a ∈ l, p a = true → q a = false ∧ q (change a) = false) :
    (changeFirst p change l).filter q = l.filter q := by
  induction l with
  | nil => rfl
  | cons a rest ih =>
    have rest_kept := ih fun b hb => h b (List.mem_cons_of_mem a hb)
    by_cases ha : p a
    · obtain ⟨before, after⟩ := h a List.mem_cons_self ha
      simp [changeFirst, ha, before, after]
    · simp only [changeFirst, ha, Bool.false_eq_true, if_false, List.filter_cons, rest_kept]

/-- The first element that satisfies a condition, after it was changed to one that still does. -/
theorem find?_changeFirst_self {l : List α} (h : ∀ a, p a = true → p (change a) = true) :
    (changeFirst p change l).find? p = (l.find? p).map change := by
  induction l with
  | nil => rfl
  | cons a rest ih =>
    by_cases ha : p a
    · simp [changeFirst, ha, h a ha]
    · simp [changeFirst, ha, ih]

theorem find?_changeFirst_of_disjoint {q : α → Bool} {l : List α}
    (h : ∀ a, p a = true → q a = false ∧ q (change a) = false) :
    (changeFirst p change l).find? q = l.find? q := by
  rw [← List.head?_filter, ← List.head?_filter, filter_changeFirst fun a _ => h a]

theorem mem_changeFirst {a : α} {l : List α} (h : a ∈ changeFirst p change l) :
    a ∈ l ∨ ∃ b ∈ l, p b = true ∧ a = change b := by
  induction l with
  | nil => exact absurd h List.not_mem_nil
  | cons b rest ih =>
    rw [changeFirst] at h
    split at h
    · next hb =>
      rcases List.mem_cons.1 h with rfl | h
      · exact .inr ⟨b, List.mem_cons_self, hb, rfl⟩
      · exact .inl (List.mem_cons_of_mem b h)
    · rcases List.mem_cons.1 h with rfl | h
      · exact .inl List.mem_cons_self
      · rcases ih h with old | ⟨c, hc, holds, rfl⟩
        · exact .inl (List.mem_cons_of_mem b old)
        · exact .inr ⟨c, List.mem_cons_of_mem b hc, holds, rfl⟩

end ChangeFirst

namespace RealmFlows

variable {r : RealmFlows}

/-! ## Flows by alias -/

theorem flow?_eq_some {a : String} {f : FlowRecord} (h : r.flow? a = some f) :
    f ∈ r.flows ∧ f.aliasName = a := by
  refine ⟨List.mem_of_find?_eq_some h, ?_⟩
  simpa using List.find?_some h

theorem flow?_eq_none {a : String} : r.flow? a = none ↔ ∀ f ∈ r.flows, f.aliasName ≠ a := by
  simp [flow?, List.find?_eq_none]

theorem hasFlow_iff {a : String} : r.hasFlow a = true ↔ ∃ f, r.flow? a = some f := by
  rw [hasFlow, Option.isSome_iff_exists]

theorem hasFlow_iff_mem {a : String} :
    r.hasFlow a = true ↔ a ∈ r.flows.map FlowRecord.aliasName := by
  simp [hasFlow, flow?, List.find?_isSome]

theorem hasFlow_of_mem {f : FlowRecord} (hf : f ∈ r.flows) : r.hasFlow f.aliasName = true :=
  hasFlow_iff_mem.2 (List.mem_map_of_mem hf)

theorem not_hasFlow {a : String} : ¬r.hasFlow a = true ↔ r.flow? a = none := by
  simp [hasFlow]

theorem flow?_addFlow (f : FlowRecord) (a : String) :
    (r.addFlow f).flow? a = (r.flow? a).or (if f.aliasName = a then some f else none) := by
  simp only [flow?, addFlow, List.find?_append, List.find?_singleton]
  simp

theorem flow?_addFlow_of_ne {f : FlowRecord} {a : String} (h : a ≠ f.aliasName) :
    (r.addFlow f).flow? a = r.flow? a := by
  rw [flow?_addFlow, if_neg (Ne.symm h), Option.or_none]

theorem flow?_addExecution (p : String) (x : FlowExecution) (a : String) :
    (r.addExecution p x).flow? a =
      if a = p then (r.flow? p).map fun f => { f with executions := f.executions ++ [x] }
      else r.flow? a := by
  unfold flow? addExecution
  by_cases same : a = p
  · subst same
    rw [if_pos rfl]
    exact find?_changeFirst_self fun f hf => hf
  · rw [if_neg same]
    refine find?_changeFirst_of_disjoint fun f hf => ?_
    have name : f.aliasName = p := by simpa using hf
    simp [name, Ne.symm same]

@[simp] theorem hasFlow_addExecution (p : String) (x : FlowExecution) (a : String) :
    (r.addExecution p x).hasFlow a = r.hasFlow a := by
  unfold hasFlow
  rw [flow?_addExecution]
  split <;> simp_all

theorem hasFlow_addFlow (f : FlowRecord) (a : String) :
    (r.addFlow f).hasFlow a = (r.hasFlow a || f.aliasName = a) := by
  unfold hasFlow
  rw [flow?_addFlow]
  cases r.flow? a <;> by_cases h : f.aliasName = a <;> simp [h]

theorem flow?_removeFlows (aliases : List String) (a : String) :
    (r.removeFlows aliases).flow? a = if a ∈ aliases then none else r.flow? a := by
  unfold flow? removeFlows
  rw [List.find?_filter]
  by_cases doomed : a ∈ aliases
  · rw [if_pos doomed, List.find?_eq_none]
    rintro f - hf
    simp only [decide_eq_true_eq, Bool.not_eq_true', List.contains_eq_mem] at hf
    obtain ⟨absent, rfl⟩ := hf
    simp [doomed] at absent
  · rw [if_neg doomed]
    congr 1
    funext f
    by_cases name : f.aliasName = a
    · simp [name, doomed]
    · simp [name]

/-- A flow is found among those that a condition on names keeps. -/
theorem flow?_congr_of_filter {r' : RealmFlows} {P : String → Prop} [DecidablePred P]
    (same : r'.flows.filter (fun f => P f.aliasName) = r.flows.filter fun f => P f.aliasName)
    {a : String} (ha : P a) : r'.flow? a = r.flow? a := by
  have among : ∀ flows : List FlowRecord,
      (flows.filter fun f => P f.aliasName).find? (fun f => f.aliasName = a) =
        flows.find? fun f => f.aliasName = a := by
    intro flows
    rw [List.find?_filter]
    congr 1
    funext f
    by_cases name : f.aliasName = a
    · simp [name, ha]
    · simp [name]
  rw [flow?, flow?, ← among, ← among r.flows, same]

/-! ## Executions by identifier -/

/-- The executions of all flows. -/
def executions (r : RealmFlows) : List FlowExecution := r.flows.flatMap FlowRecord.executions

/-- The identifiers of all executions. -/
def executionIds (r : RealmFlows) : List String := r.executions.map FlowExecution.id

theorem mem_executions {x : FlowExecution} :
    x ∈ r.executions ↔ ∃ f ∈ r.flows, x ∈ f.executions :=
  List.mem_flatMap

theorem hasExecution_iff {id : String} : r.hasExecution id = true ↔ id ∈ r.executionIds := by
  simp only [hasExecution, executionIds, executions, List.any_eq_true, List.mem_map,
    List.mem_flatMap, decide_eq_true_eq]
  constructor
  · rintro ⟨f, hf, x, hx, rfl⟩
    exact ⟨x, ⟨f, hf, hx⟩, rfl⟩
  · rintro ⟨x, ⟨f, hf, hx⟩, rfl⟩
    exact ⟨f, hf, x, hx, rfl⟩

theorem executions_addFlow (f : FlowRecord) :
    (r.addFlow f).executions = r.executions ++ f.executions := by
  simp [executions, addFlow]

theorem executions_addExecution_perm (p : String) (x : FlowExecution) (h : r.hasFlow p = true) :
    (r.addExecution p x).executions.Perm (r.executions ++ [x]) := by
  obtain ⟨flows, configs, entryPoint⟩ := r
  rw [hasFlow_iff_mem] at h
  simp only [executions, addExecution]
  induction flows with
  | nil => simp at h
  | cons f rest ih =>
    by_cases hf : f.aliasName = p
    · simp only [changeFirst, hf, decide_true, if_true, List.flatMap_cons, List.append_assoc]
      exact List.perm_append_comm.append_left f.executions
    · have later : p ∈ rest.map FlowRecord.aliasName := by
        rw [List.map_cons, List.mem_cons] at h
        exact h.resolve_left fun same => hf same.symm
      simp only [changeFirst, hf, decide_false, Bool.false_eq_true, if_false, List.flatMap_cons,
        List.append_assoc]
      exact (ih later).append_left f.executions

theorem executions_changeAround_perm (id : String)
    {change : List FlowExecution → List FlowExecution} (h : ∀ xs, (change xs).Perm xs) :
    (r.changeAround id change).executions.Perm r.executions := by
  obtain ⟨flows, configs, entryPoint⟩ := r
  simp only [executions, changeAround]
  induction flows with
  | nil => exact .rfl
  | cons f rest ih =>
    by_cases hf : f.executions.any (fun x => decide (x.id = id)) = true
    · simp only [changeFirst, hf, if_true, List.flatMap_cons]
      exact (h f.executions).append_right _
    · simp only [changeFirst, hf, Bool.false_eq_true, if_false, List.flatMap_cons]
      exact ih.append_left f.executions

theorem raised_perm (id : String) (xs : List FlowExecution) : (raised id xs).Perm xs := by
  fun_induction raised id xs with
  | case1 => exact .rfl
  | case2 x => exact .rfl
  | case3 x y rest hx => exact .rfl
  | case4 x y rest hx hy => exact .swap x y rest
  | case5 x y rest hx hy ih => exact ih.cons x

theorem lowered_perm (id : String) (xs : List FlowExecution) : (lowered id xs).Perm xs := by
  fun_induction lowered id xs with
  | case1 => exact .rfl
  | case2 x => exact .rfl
  | case3 x y rest hx => exact .swap x y rest
  | case4 x y rest hx ih => exact ih.cons x

/-- A flow in which every execution with an identifier is changed. -/
def touched (id : String) (change : FlowExecution → FlowExecution) (f : FlowRecord) : FlowRecord :=
  { f with executions := f.executions.map fun x => if x.id = id then change x else x }

theorem touched_of_forall_ne {id : String} {change : FlowExecution → FlowExecution} {f : FlowRecord}
    (h : ∀ x ∈ f.executions, x.id ≠ id) : touched id change f = f := by
  have kept : f.executions.map (fun x => if x.id = id then change x else x) = f.executions := by
    refine (List.map_congr_left fun x hx => ?_).trans (List.map_id _)
    simp [h x hx]
  simp only [touched, kept]

/-- Where identifiers are told apart, the change of an execution touches all flows alike. -/
theorem changeExecution_flows (id : String) (change : FlowExecution → FlowExecution)
    (h : r.executionIds.Nodup) :
    (r.changeExecution id change).flows = r.flows.map (touched id change) := by
  rw [executionIds, executions, List.map_flatMap, List.nodup_flatMap] at h
  obtain ⟨within, apart⟩ := h
  have one_holder : r.flows.Pairwise fun f g =>
      (f.executions.any fun x => x.id = id) = true → ¬(g.executions.any fun x => x.id = id) = true := by
    refine apart.imp fun {f g} apart hf hg => ?_
    simp only [List.any_eq_true, decide_eq_true_eq] at hf hg
    obtain ⟨x, hx, rfl⟩ := hf
    obtain ⟨y, hy, same⟩ := hg
    exact apart (List.mem_map_of_mem hx) (same ▸ List.mem_map_of_mem hy)
  unfold changeExecution changeAround
  rw [changeFirst_eq_map one_holder]
  refine List.map_congr_left fun f hf => ?_
  split
  · have one_execution : f.executions.Pairwise fun x y =>
        decide (x.id = id) = true → ¬decide (y.id = id) = true := by
      refine (List.pairwise_map.1 (within f hf)).imp fun {x y} apart hx hy => apart ?_
      rw [of_decide_eq_true hx, of_decide_eq_true hy]
    simp only [touched, changeFirst_eq_map one_execution, decide_eq_true_eq]
  · next none =>
    refine (touched_of_forall_ne fun x hx same => none ?_).symm
    simpa using ⟨x, hx, same⟩

theorem hasFlow_changeExecution (id : String) (change : FlowExecution → FlowExecution) (a : String) :
    (r.changeExecution id change).hasFlow a = r.hasFlow a := by
  have names : (r.changeExecution id change).flows.map FlowRecord.aliasName =
      r.flows.map FlowRecord.aliasName := map_changeFirst fun _ _ _ => rfl
  rw [Bool.eq_iff_iff, hasFlow_iff_mem, hasFlow_iff_mem, names]

theorem executions_changeExecution (id : String) (change : FlowExecution → FlowExecution)
    (h : r.executionIds.Nodup) :
    (r.changeExecution id change).executions =
      r.executions.map fun x => if x.id = id then change x else x := by
  unfold executions
  rw [changeExecution_flows id change h, List.flatMap_map, List.map_flatMap]
  rfl

/-! ## Configurations -/

/-- The realm with a configuration kept under an identifier. -/
def keepConfig (r : RealmFlows) (id : String) (config : AuthenticatorConfig) : RealmFlows :=
  { r with configs := r.configs.insert id { config with id := some id } }

end RealmFlows

end RealmSetup
