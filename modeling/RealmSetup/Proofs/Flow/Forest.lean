import RealmSetup.Flow.MemoryServer
import RealmSetup.Proofs.Flow.Nesting

/-!
# Realms whose flows are a forest

A realm is well kept when its flows are a forest under those in its listing: no alias is that of two
flows, and every flow is either listed or called for once, from below one that is.  In such a realm
following aliases down always comes to an end (`Forest.ends`).

Which flows call for which is all that counts for this.  `skeleton` is that part of a realm, which
changes of requirements and configurations leave alone.
-/

namespace RealmSetup

namespace RealmFlows

variable {r r' : RealmFlows} {a b c : String}

/-! ## The calls of a realm -/

/-- The aliases of the flows, what they call for and whether they are listed. -/
def skeleton (r : RealmFlows) : List (String × List String × Bool) :=
  r.flows.map fun f => (f.aliasName, f.nested, f.topLevel)

theorem calledBy_eq_skeleton (r : RealmFlows) (a : String) :
    r.calledBy a = ((r.skeleton.find? fun s => s.1 = a).map fun s => s.2.1).getD [] := by
  rw [skeleton, List.find?_map, calledBy, flow?]
  have by_alias : ((fun s : String × List String × Bool => decide (s.1 = a)) ∘
      fun f : FlowRecord => (f.aliasName, f.nested, f.topLevel)) = fun f => decide (f.aliasName = a) := rfl
  rw [by_alias]
  cases r.flows.find? fun f => decide (f.aliasName = a) <;> rfl

theorem calls_of_skeleton (same : r'.skeleton = r.skeleton) : r'.Calls = r.Calls := by
  funext a b
  rw [Calls, Calls, calledBy_eq_skeleton, calledBy_eq_skeleton, same]

/-- Changes of executions that keep what is called for leave the calls alone. -/
theorem skeleton_changeExecution (id : String) {change : FlowExecution → FlowExecution}
    (keeps : ∀ x, (change x).target = x.target) :
    (r.changeExecution id change).skeleton = r.skeleton := by
  refine map_changeFirst fun f _ _ => ?_
  have same : (changeFirst (fun x => decide (x.id = id)) change f.executions).map
      FlowExecution.nested? = f.executions.map FlowExecution.nested? :=
    map_changeFirst fun x _ _ => by rw [FlowExecution.nested?, FlowExecution.nested?, keeps]
  have nested : ∀ xs : List FlowExecution, xs.filterMap FlowExecution.nested? =
      (xs.map FlowExecution.nested?).filterMap fun b => b := by
    intro xs
    rw [List.filterMap_map]
    rfl
  simp only [FlowRecord.nested, Prod.mk.injEq, true_and, and_true]
  rw [nested, same, ← nested]

/-- So do new leaves. -/
theorem skeleton_addExecution_leaf (p : String) {x : FlowExecution} (leaf : x.nested? = none) :
    (r.addExecution p x).skeleton = r.skeleton := by
  refine map_changeFirst fun f _ _ => ?_
  simp [FlowRecord.nested, List.filterMap_append, leaf]

/-- Nesting still ends when every new call is for something whose nesting ends. -/
theorem Ends.of_calls (h : r.Ends a) (calls : ∀ u v, r'.Calls u v → r.Calls u v ∨ r'.Ends v) :
    r'.Ends a := by
  induction h with
  | intro a _ ih =>
    refine Acc.intro a fun b called => ?_
    rcases calls a b called with before | ends
    · exact ih b before
    · exact ends

theorem Reaches.mono (h : r.Reaches a b) (calls : ∀ u v, r.Calls u v → r'.Calls u v) :
    r'.Reaches a b :=
  Relation.ReflTransGen.mono calls _ _ h

theorem ends_of_none (h : r.flow? a = none) : r.Ends a := by
  refine Acc.intro a fun b called => ?_
  rw [Calls, calledBy_of_none h] at called
  exact absurd called List.not_mem_nil

/-- A call comes from some flow with the alias. -/
theorem Calls.exists_flow (h : r.Calls a b) : ∃ f ∈ r.flows, f.aliasName = a ∧ b ∈ f.nested := by
  obtain ⟨f, found⟩ := hasFlow_iff.1 h.hasFlow
  rw [Calls, calledBy_of_flow? found] at h
  exact ⟨f, (flow?_eq_some found).1, (flow?_eq_some found).2, h⟩

/-- A new flow calls for nothing. -/
theorem calls_addFlow {f : FlowRecord} (empty : f.executions = []) :
    (r.addFlow f).Calls a b ↔ r.Calls a b := by
  have nothing : f.nested = [] := by rw [FlowRecord.nested, empty, List.filterMap_nil]
  unfold Calls calledBy
  rw [flow?_addFlow]
  cases r.flow? a with
  | some g => rfl
  | none =>
    rw [Option.none_or]
    by_cases new : f.aliasName = a
    · simp [new, nothing]
    · simp [new]

theorem calls_removeFlows {aliases : List String} (called : (r.removeFlows aliases).Calls a b) :
    r.Calls a b := by
  unfold Calls calledBy at called ⊢
  rw [flow?_removeFlows] at called
  by_cases doomed : a ∈ aliases
  · rw [if_pos doomed] at called
    exact absurd called List.not_mem_nil
  · rwa [if_neg doomed] at called

/-! ## Forests -/

/-- The flows of a realm are a forest under those in its listing. -/
structure Forest (r : RealmFlows) : Prop where
  /-- No two flows have one alias. -/
  names : (r.flows.map FlowRecord.aliasName).Nodup
  /-- What a flow calls for is there. -/
  closed : ∀ f ∈ r.flows, ∀ b ∈ f.nested, r.hasFlow b = true
  /-- A flow that is listed is called for by none. -/
  roots : ∀ f ∈ r.flows, f.topLevel = true → ∀ g ∈ r.flows, f.aliasName ∉ g.nested
  /-- Every other flow is called for once. -/
  once : ∀ f ∈ r.flows, f.topLevel = false →
    (r.flows.flatMap FlowRecord.nested).count f.aliasName = 1
  /-- It is come to from one that is listed. -/
  rooted : ∀ f ∈ r.flows, f.topLevel = false →
    ∃ t ∈ r.flows, t.topLevel = true ∧ r.Reaches t.aliasName f.aliasName

/-- What occurs once among the lists of some elements is in the list of one of them. -/
theorem eq_of_count_flatMap {α : Type} {l : List α} {lists : α → List String}
    (once : (l.flatMap lists).count b = 1) {x y : α} (hx : x ∈ l) (hy : y ∈ l) (bx : b ∈ lists x)
    (hb : b ∈ lists y) : x = y := by
  induction l with
  | nil => exact absurd hx List.not_mem_nil
  | cons z l ih =>
    rw [List.flatMap_cons, List.count_append] at once
    have later : ∀ w ∈ l, b ∈ lists w → 0 < (l.flatMap lists).count b := fun w hw mem =>
      List.count_pos_iff.2 (List.mem_flatMap.2 ⟨w, hw, mem⟩)
    have here : ∀ w, w = z → b ∈ lists w → 0 < (lists z).count b := by
      rintro w rfl mem
      exact List.count_pos_iff.2 mem
    rcases List.mem_cons.1 hx with hxz | hx <;> rcases List.mem_cons.1 hy with hyz | hy
    · exact hxz.trans hyz.symm
    · have := here x hxz bx
      have := later y hy hb
      omega
    · have := here y hyz hb
      have := later x hx bx
      omega
    · have := later x hx bx
      exact ih (by omega) hx hy

/-- No flow is called for by two. -/
theorem Forest.calls_unique (h : r.Forest) (first : r.Calls a b) (second : r.Calls c b) : a = c := by
  obtain ⟨f, hf, rfl, bf⟩ := first.exists_flow
  obtain ⟨g, hg, rfl, bg⟩ := second.exists_flow
  obtain ⟨k, found⟩ := hasFlow_iff.1 (h.closed f hf b bf)
  obtain ⟨hk, rfl⟩ := flow?_eq_some found
  cases top : k.topLevel with
  | true => exact absurd bf (h.roots k hk top f hf)
  | false => exact congrArg _ (eq_of_count_flatMap (h.once k hk top) hf hg bf bg)

/-- A flow that is listed is called for by none. -/
theorem Forest.not_calls (h : r.Forest) {t : FlowRecord} (ht : t ∈ r.flows) (top : t.topLevel = true) :
    ¬r.Calls a t.aliasName := by
  intro called
  obtain ⟨g, hg, -, mem⟩ := called.exists_flow
  exact h.roots t ht top g hg mem

/-- What is come to from a flow that is listed is not come back to: the way back would lead through the
one flow that calls for it, up to the flow that none calls for. -/
theorem Forest.no_circle (h : r.Forest) {t : FlowRecord} (ht : t ∈ r.flows)
    (top : t.topLevel = true) (reached : r.Reaches t.aliasName b) :
    ¬Relation.TransGen r.Calls b b := by
  induction reached with
  | refl =>
    intro circle
    obtain ⟨c, -, called⟩ := Relation.TransGen.tail'_iff.1 circle
    exact h.not_calls ht top called
  | @tail c b _ called ih =>
    intro circle
    obtain ⟨e, back, last⟩ := Relation.TransGen.tail'_iff.1 circle
    obtain rfl := h.calls_unique last called
    exact ih (Relation.TransGen.head' called back)

/-- No alias is come to from two flows that are listed. -/
theorem Forest.eq_of_reaches (h : r.Forest) {t u : FlowRecord} (ht : t ∈ r.flows)
    (ht_top : t.topLevel = true) (hu : u ∈ r.flows) (hu_top : u.topLevel = true)
    (first : r.Reaches t.aliasName b) (second : r.Reaches u.aliasName b) :
    t.aliasName = u.aliasName := by
  induction first with
  | refl =>
    rcases second.cases_tail with same | ⟨c, -, called⟩
    · exact same
    · exact absurd called (h.not_calls ht ht_top)
  | @tail c b _ called ih =>
    rcases second.cases_tail with rfl | ⟨e, reached, last⟩
    · exact absurd called (h.not_calls hu hu_top)
    · exact ih (h.calls_unique last called ▸ reached)

/-- All that is come to from a flow is there. -/
theorem Forest.hasFlow_of_reaches (h : r.Forest) (there : r.hasFlow a = true)
    (reached : r.Reaches a b) : r.hasFlow b = true := by
  induction reached with
  | refl => exact there
  | tail _ called _ =>
    obtain ⟨f, hf, -, mem⟩ := called.exists_flow
    exact h.closed f hf _ mem

/-- In a forest following aliases down comes to an end. -/
theorem Forest.ends (h : r.Forest) (a : String) : r.Ends a := by
  cases found : r.flow? a with
  | none => exact ends_of_none found
  | some f =>
    obtain ⟨hf, rfl⟩ := flow?_eq_some found
    obtain ⟨t, ht, top, reached⟩ : ∃ t ∈ r.flows, t.topLevel = true ∧
        r.Reaches t.aliasName f.aliasName := by
      cases top : f.topLevel with
      | true => exact ⟨f, hf, top, .refl⟩
      | false => exact h.rooted f hf top
    exact (endsWithin_of_no_circle fun v below => h.no_circle ht top (reached.trans below)).ends

/-- The flow that an alias names is the only one with it. -/
theorem Forest.eq_of_flow? (h : r.Forest) {f g : FlowRecord} (found : r.flow? a = some f)
    (hg : g ∈ r.flows) (name : g.aliasName = a) : g = f := by
  obtain ⟨hf, hname⟩ := flow?_eq_some found
  exact List.inj_on_of_nodup_map h.names hg hf (name.trans hname.symm)

/-- Realms begin as forests. -/
theorem forest_fresh (stock : Bool) (issued : Nat) : (FlowDesk.fresh stock issued).realm.Forest := by
  cases stock with
  | false => constructor <;> simp [FlowDesk.fresh, empty]
  | true =>
    have browser : (FlowDesk.stockBrowser issued).nested = ["forms"] := rfl
    have forms : (FlowDesk.stockForms issued).nested = ["Browser - Conditional OTP"] := rfl
    have otp : (FlowDesk.stockOtp issued).nested = [] := rfl
    have flows : (FlowDesk.fresh true issued).realm.flows =
        [FlowDesk.stockBrowser issued, FlowDesk.stockForms issued, FlowDesk.stockOtp issued] := rfl
    have all_nested : (FlowDesk.fresh true issued).realm.flows.flatMap FlowRecord.nested =
        ["forms", "Browser - Conditional OTP"] := rfl
    have first : (FlowDesk.fresh true issued).realm.Calls "browser" "forms" := List.mem_singleton_self _
    have second : (FlowDesk.fresh true issued).realm.Calls "forms" "Browser - Conditional OTP" :=
      List.mem_singleton_self _
    constructor
    · show ["browser", "forms", "Browser - Conditional OTP"].Nodup
      decide
    · rw [flows]
      simp only [List.forall_mem_cons, browser, forms, otp]
      exact ⟨⟨second.hasFlow, by simp⟩, ⟨rfl, by simp⟩, by simp, by simp⟩
    · rw [flows]
      intro f hf top g hg mem
      have called : f.aliasName ∈ (FlowDesk.fresh true issued).realm.flows.flatMap FlowRecord.nested :=
        List.mem_flatMap.2 ⟨g, flows ▸ hg, mem⟩
      rw [all_nested] at called
      simp only [List.mem_cons, List.not_mem_nil, or_false] at hf
      rcases hf with rfl | rfl | rfl
      · exact absurd called (by decide : "browser" ∉ ["forms", "Browser - Conditional OTP"])
      · exact nomatch top
      · exact nomatch top
    · rw [all_nested, flows]
      intro f hf nested
      simp only [List.mem_cons, List.not_mem_nil, or_false] at hf
      rcases hf with rfl | rfl | rfl
      · exact nomatch nested
      · exact (by decide : ["forms", "Browser - Conditional OTP"].count "forms" = 1)
      · exact (by decide : ["forms", "Browser - Conditional OTP"].count "Browser - Conditional OTP" = 1)
    · rw [flows]
      intro f hf nested
      refine ⟨FlowDesk.stockBrowser issued, List.mem_cons_self, rfl, ?_⟩
      simp only [List.mem_cons, List.not_mem_nil, or_false] at hf
      rcases hf with rfl | rfl | rfl
      · exact nomatch nested
      · exact .single first
      · exact .tail (.single first) second

/-! ## Flows that hang below one -/

/-- Some flows hang below an alias: they are come to from it, they call for each other alone, and this
nesting ends. -/
structure Hangs (r : RealmFlows) (own : String → Prop) (a : String) : Prop where
  /-- Each of them is come to. -/
  rooted : ∀ f ∈ r.flows, own f.aliasName → r.Reaches a f.aliasName
  /-- None of them calls for others. -/
  apart : ∀ f ∈ r.flows, own f.aliasName → ∀ b ∈ f.nested, own b
  /-- Following aliases down comes to an end. -/
  ends : r.Ends a
  /-- The flow with the alias is listed. -/
  top : ∀ f ∈ r.flows, f.aliasName = a → f.topLevel = true

variable {own : String → Prop}

theorem Hangs.own_of_reaches (h : r.Hangs own a) (mine : own a) (reached : r.Reaches a b) : own b := by
  induction reached with
  | refl => exact mine
  | tail _ called ih =>
    obtain ⟨f, hf, rfl, mem⟩ := called.exists_flow
    exact h.apart f hf ih _ mem

theorem Hangs.of_skeleton (h : r.Hangs own a) (same : r'.skeleton = r.skeleton) : r'.Hangs own a := by
  have calls := calls_of_skeleton same
  have old : ∀ f ∈ r'.flows, ∃ g ∈ r.flows, g.aliasName = f.aliasName ∧ g.nested = f.nested ∧
      g.topLevel = f.topLevel := by
    intro f hf
    have mem : (f.aliasName, f.nested, f.topLevel) ∈ r.skeleton := same ▸ List.mem_map_of_mem hf
    obtain ⟨g, hg, triple⟩ := List.mem_map.1 mem
    simp only [Prod.mk.injEq] at triple
    exact ⟨g, hg, triple.1, triple.2.1, triple.2.2⟩
  refine ⟨fun f hf mine => ?_, fun f hf mine b hb => ?_, ?_, fun f hf name => ?_⟩
  · obtain ⟨g, hg, name, -, -⟩ := old f hf
    rw [Reaches, calls, ← name]
    exact h.rooted g hg (name ▸ mine)
  · obtain ⟨g, hg, name, nested, -⟩ := old f hf
    exact h.apart g hg (name ▸ mine) b (nested ▸ hb)
  · rw [Ends, calls]
    exact h.ends
  · obtain ⟨g, hg, same_name, -, top⟩ := old f hf
    exact top ▸ h.top g hg (same_name.trans name)

/-- What a flow calls for when it was given a new subflow. -/
theorem calls_addSubflow {q : String} {f : FlowRecord} {x : FlowExecution}
    (there : r.hasFlow q = true) (empty : f.executions = []) (called : x.nested? = some f.aliasName)
    {u v : String} :
    ((r.addFlow f).addExecution q x).Calls u v ↔ r.Calls u v ∨ (u = q ∧ v = f.aliasName) := by
  obtain ⟨g, found⟩ := hasFlow_iff.1 there
  have nothing : f.nested = [] := by rw [FlowRecord.nested, empty, List.filterMap_nil]
  unfold Calls calledBy
  rw [flow?_addExecution, flow?_addFlow, flow?_addFlow, found, Option.some_or, Option.map_some]
  by_cases here : u = q
  · subst here
    rw [if_pos rfl, found]
    simp [FlowRecord.nested, List.filterMap_append, called]
  · rw [if_neg here]
    cases other : r.flow? u with
    | some k => simp [here]
    | none =>
      rw [Option.none_or]
      by_cases new : f.aliasName = u
      · simp [new, nothing, here]
      · simp [new, here]

/-- A new subflow of a flow that hangs below an alias hangs there too. -/
theorem Hangs.addSubflow (h : r.Hangs own a) (root : r.hasFlow a = true) {q : String} (mine : own q)
    (there : r.hasFlow q = true) {f : FlowRecord} (free : ¬r.hasFlow f.aliasName = true)
    (named : own f.aliasName) (empty : f.executions = []) {x : FlowExecution}
    (called : x.nested? = some f.aliasName) : ((r.addFlow f).addExecution q x).Hangs own a := by
  -- There is one call more, and what it is for calls for nothing itself.
  have calls : ∀ {u v}, ((r.addFlow f).addExecution q x).Calls u v ↔
      r.Calls u v ∨ (u = q ∧ v = f.aliasName) := calls_addSubflow there empty called
  have nothing : f.nested = [] := by rw [FlowRecord.nested, empty, List.filterMap_nil]
  have reached_before : ∀ g ∈ r.flows, own g.aliasName →
      ((r.addFlow f).addExecution q x).Reaches a g.aliasName := fun g hg mine =>
    (h.rooted g hg mine).mono fun u v called => calls.2 (.inl called)
  have old : ∀ g ∈ ((r.addFlow f).addExecution q x).flows,
      ∃ k ∈ r.flows ++ [f], g.aliasName = k.aliasName ∧ g.topLevel = k.topLevel ∧
        ∀ b ∈ g.nested, b ∈ k.nested ∨ b = f.aliasName := by
    intro g hg
    rcases mem_changeFirst hg with old | ⟨k, hk, -, rfl⟩
    · exact ⟨g, old, rfl, rfl, fun b hb => .inl hb⟩
    · refine ⟨k, hk, rfl, rfl, fun b hb => ?_⟩
      simpa [FlowRecord.nested, List.filterMap_append, called] using hb
  refine ⟨fun g hg mine' => ?_, fun g hg mine' b hb => ?_, ?_, fun g hg name => ?_⟩
  · obtain ⟨k, hk, name, -⟩ := old g hg
    rw [name] at mine' ⊢
    rcases List.mem_append.1 hk with hk | hk
    · exact reached_before k hk mine'
    · rw [List.mem_singleton.1 hk]
      obtain ⟨p, found⟩ := hasFlow_iff.1 there
      obtain ⟨hp, rfl⟩ := flow?_eq_some found
      exact (reached_before p hp mine).tail (calls.2 (.inr ⟨rfl, rfl⟩))
  · obtain ⟨k, hk, name, -, nested⟩ := old g hg
    rcases nested b hb with hb | rfl
    · rcases List.mem_append.1 hk with hk | hk
      · exact h.apart k hk (name ▸ mine') b hb
      · rw [List.mem_singleton.1 hk, nothing] at hb
        exact absurd hb List.not_mem_nil
    · exact named
  · refine h.ends.of_calls fun u v called => (calls.1 called).imp_right ?_
    rintro ⟨-, rfl⟩
    refine Acc.intro _ fun b called => ?_
    rcases calls.1 called with before | ⟨rfl, -⟩
    · exact absurd before.hasFlow free
    · exact absurd there free
  · obtain ⟨k, hk, same, top, -⟩ := old g hg
    rw [top]
    rcases List.mem_append.1 hk with hk | hk
    · exact h.top k hk (same.symm.trans name)
    · rw [List.mem_singleton.1 hk] at same
      exact absurd (name.symm.trans same ▸ root) free

end RealmFlows

end RealmSetup
