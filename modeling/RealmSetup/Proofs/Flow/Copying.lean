import RealmSetup.Proofs.Flow.Forest
import RealmSetup.Proofs.Flow.Numbering

/-!
# What a copy consists of

A flow is copied with all that is come to from it, under names that begin with the name of the copy.
Where none of these names is taken, the copies call for each other as the originals do
(`calls_copied`), so that all of them are come to from the copy (`reaches_copied`) and their nesting ends
where that of the original does (`ends_copied`).  Flows that were there before stay as they are in any
case (`flow?_copied_of_hasFlow`).
-/

namespace RealmSetup

namespace FlowDesk

variable {d d' : FlowDesk} {source dest a b : String} {f g : FlowRecord}

/-! ## Names -/

theorem renamed_self (source dest : String) : renamed source dest source = dest :=
  if_pos rfl

theorem renamed_of_ne (dest : String) (h : a ≠ source) : renamed source dest a = dest ++ " " ++ a :=
  if_neg h

theorem ne_append_name (dest a : String) : dest ≠ dest ++ " " ++ a := by
  intro same
  have lengths := congrArg String.length same
  rw [String.length_append, String.length_append] at lengths
  have : (" " : String).length = 1 := rfl
  omega

/-- Different flows have copies with different names. -/
theorem renamed_inj (h : renamed source dest a = renamed source dest b) : a = b := by
  unfold renamed at h
  split at h <;> split at h
  · next ha hb => exact ha.trans hb.symm
  · exact absurd h (ne_append_name dest b)
  · exact absurd h.symm (ne_append_name dest a)
  · exact String.append_right_inj _ |>.1 h

/-! ## Copies -/

/-- The copies of a flow and of all that is come to from it. -/
def copies (d : FlowDesk) (source dest : String) : List FlowRecord :=
  copyRecords source dest d.issued ((d.realm.aliasesBelow source).filterMap d.realm.flow?)

/-- The desk with the copies added. -/
def copied (d : FlowDesk) (source dest : String) : FlowDesk :=
  ⟨{ d.realm with flows := d.realm.flows ++ d.copies source dest },
    d.issued + identifiersAmong ((d.realm.aliasesBelow source).filterMap d.realm.flow?)⟩

/-- A copy is refused, is there already or is made. -/
theorem copyFlow_cases {creation : Creation} (h : d.copyFlow source dest = .ok (creation, d')) :
    (d.realm.hasFlow dest = true ∧ d' = d) ∨
      (¬d.realm.hasFlow dest = true ∧ d.realm.hasFlow source = true ∧ d' = d.copied source dest) := by
  unfold copyFlow at h
  split at h
  · next taken =>
    cases h
    exact .inl ⟨taken, rfl⟩
  · next free =>
    split at h
    · next there =>
      cases h
      exact .inr ⟨free, there, rfl⟩
    · cases h

theorem nested_copyRecord (source dest : String) (n : Nat) (f : FlowRecord) :
    (copyRecord source dest n f).nested = f.nested.map (renamed source dest) := by
  rw [FlowRecord.nested, copyRecord, List.filterMap_map, FlowRecord.nested, List.map_filterMap]
  conv_rhs => rw [← List.zipIdx_map_fst (n + 2) f.executions, List.filterMap_map]
  refine List.filterMap_congr ?_
  rintro ⟨x, k⟩ -
  simp only [Function.comp_apply, FlowExecution.nested?]
  cases x.target <;> rfl

theorem mem_copies (h : f ∈ d.copies source dest) :
    ∃ a g n, d.realm.Reaches source a ∧ d.realm.flow? a = some g ∧ f = copyRecord source dest n g := by
  obtain ⟨g, hg, n, -, -, rfl⟩ := mem_copyRecords h
  obtain ⟨a, ha, found⟩ := List.mem_filterMap.1 hg
  exact ⟨a, g, n, RealmFlows.reaches_of_mem_aliasesFrom ha, found, rfl⟩

/-- The name of a copy comes from an alias that the source reaches. -/
theorem aliasName_of_mem_copies (h : f ∈ d.copies source dest) :
    ∃ a, d.realm.Reaches source a ∧ f.aliasName = renamed source dest a := by
  obtain ⟨a, g, n, reached, found, rfl⟩ := mem_copies h
  exact ⟨a, reached, congrArg (renamed source dest) (RealmFlows.flow?_eq_some found).2⟩

theorem exists_mem_copies (ends : d.realm.Ends source) (reached : d.realm.Reaches source a)
    (found : d.realm.flow? a = some g) (dest : String) :
    ∃ n, copyRecord source dest n g ∈ d.copies source dest := by
  have among : g ∈ (d.realm.aliasesBelow source).filterMap d.realm.flow? :=
    List.mem_filterMap.2 ⟨a, (RealmFlows.mem_aliasesBelow ends).2 reached, found⟩
  unfold copies
  generalize (d.realm.aliasesBelow source).filterMap d.realm.flow? = fs at among
  generalize d.issued = m
  induction fs generalizing m with
  | nil => exact absurd among List.not_mem_nil
  | cons k fs ih =>
    rcases List.mem_cons.1 among with rfl | among
    · exact ⟨m, List.mem_cons_self⟩
    · obtain ⟨n, mem⟩ := ih among (m + identifiersIn k)
      exact ⟨n, List.mem_cons_of_mem _ mem⟩

/-! ## Flows after copying -/

theorem flow?_copied (a : String) :
    (d.copied source dest).realm.flow? a =
      (d.realm.flow? a).or ((d.copies source dest).find? fun f => f.aliasName = a) :=
  List.find?_append

/-- Flows that were there stay as they are. -/
theorem flow?_copied_of_hasFlow (there : d.realm.hasFlow a = true) :
    (d.copied source dest).realm.flow? a = d.realm.flow? a := by
  obtain ⟨f, found⟩ := RealmFlows.hasFlow_iff.1 there
  rw [flow?_copied, found, Option.some_or]

/-- Names that are not those of copies name what they named. -/
theorem flow?_copied_of_ne (other : ∀ b, d.realm.Reaches source b → a ≠ renamed source dest b) :
    (d.copied source dest).realm.flow? a = d.realm.flow? a := by
  have none : (d.copies source dest).find? (fun f => f.aliasName = a) = none := by
    rw [List.find?_eq_none]
    intro f hf name
    obtain ⟨b, reached, same⟩ := aliasName_of_mem_copies hf
    exact other b reached ((of_decide_eq_true name).symm.trans same)
  rw [flow?_copied, none, Option.or_none]

/-- Where its name is free, the copy of a flow is found by it. -/
theorem flow?_copied_renamed (ends : d.realm.Ends source) (reached : d.realm.Reaches source a)
    (free : ¬d.realm.hasFlow (renamed source dest a) = true) :
    (d.realm.flow? a = none ∧ (d.copied source dest).realm.flow? (renamed source dest a) = none) ∨
      ∃ g n, d.realm.flow? a = some g ∧
        (d.copied source dest).realm.flow? (renamed source dest a) =
          some (copyRecord source dest n g) := by
  have only : ∀ f ∈ d.copies source dest, f.aliasName = renamed source dest a →
      ∃ g n, d.realm.flow? a = some g ∧ f = copyRecord source dest n g := by
    intro f hf name
    obtain ⟨b, g, n, -, found, rfl⟩ := mem_copies hf
    have same : renamed source dest b = renamed source dest a :=
      (congrArg (renamed source dest) (RealmFlows.flow?_eq_some found).2).symm.trans name
    exact ⟨g, n, renamed_inj same ▸ found, rfl⟩
  rw [flow?_copied, RealmFlows.not_hasFlow.1 free, Option.none_or]
  cases hit : (d.copies source dest).find? fun f => f.aliasName = renamed source dest a with
  | none =>
    refine .inl ⟨?_, rfl⟩
    cases found : d.realm.flow? a with
    | none => rfl
    | some g =>
      obtain ⟨n, mem⟩ := exists_mem_copies ends reached found dest
      have missed := List.find?_eq_none.1 hit _ mem
      simp [copyRecord, (RealmFlows.flow?_eq_some found).2] at missed
  | some f =>
    obtain ⟨g, n, found, rfl⟩ := only f (List.mem_of_find?_eq_some hit)
      (by simpa using List.find?_some hit)
    exact .inr ⟨g, n, found, rfl⟩

/-- A copy calls for the copies of what the original calls for. -/
theorem calls_copied (ends : d.realm.Ends source) (reached : d.realm.Reaches source a)
    (free : ¬d.realm.hasFlow (renamed source dest a) = true) :
    (d.copied source dest).realm.Calls (renamed source dest a) b ↔
      ∃ c, d.realm.Calls a c ∧ renamed source dest c = b := by
  rcases flow?_copied_renamed ends reached free with ⟨absent, missing⟩ | ⟨g, n, found, copy⟩
  · simp [RealmFlows.Calls, RealmFlows.calledBy_of_none absent, RealmFlows.calledBy_of_none missing]
  · rw [RealmFlows.Calls, RealmFlows.calledBy_of_flow? copy, nested_copyRecord, List.mem_map]
    simp [RealmFlows.Calls, RealmFlows.calledBy_of_flow? found]

section Free

variable (ends : d.realm.Ends source)
  (free : ∀ a, d.realm.Reaches source a → ¬d.realm.hasFlow (renamed source dest a) = true)
include ends free

theorem reaches_copied (reached : d.realm.Reaches source a) :
    (d.copied source dest).realm.Reaches dest (renamed source dest a) := by
  induction reached with
  | refl =>
    rw [renamed_self]
    exact .refl
  | @tail c b before called ih =>
    exact ih.tail ((calls_copied ends before (free c before)).2 ⟨b, called, rfl⟩)

theorem ends_copied : (d.copied source dest).realm.Ends dest := by
  -- By induction on the nesting of the originals, from which every call of a copy comes.
  have along : ∀ a, d.realm.Ends a → d.realm.Reaches source a →
      (d.copied source dest).realm.Ends (renamed source dest a) := by
    intro a h
    induction h with
    | intro a _ ih =>
      intro reached
      refine Acc.intro _ fun b called => ?_
      obtain ⟨c, before, rfl⟩ := (calls_copied ends reached (free a reached)).1 called
      exact ih c before (reached.tail before)
  have root := along source ends .refl
  rwa [renamed_self] at root

end Free

/-- The copy itself is there when it was made. -/
theorem hasFlow_copied (ends : d.realm.Ends source) (there : d.realm.hasFlow source = true)
    (free : ¬d.realm.hasFlow dest = true) : (d.copied source dest).realm.hasFlow dest = true := by
  have unnamed : ¬d.realm.hasFlow (renamed source dest source) = true := by rwa [renamed_self]
  have here := flow?_copied_renamed ends .refl unnamed
  rw [renamed_self] at here
  rcases here with ⟨absent, -⟩ | ⟨g, n, -, copy⟩
  · exact absurd there (RealmFlows.not_hasFlow.2 absent)
  · exact RealmFlows.hasFlow_iff.2 ⟨_, copy⟩

end FlowDesk

end RealmSetup
