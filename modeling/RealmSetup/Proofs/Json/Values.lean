import RealmSetup.Json.Decode
import RealmSetup.Proofs.Json.Entries

/-!
# The values that texts show

A text may show the same value in many ways: with blanks, with its characters escaped, with the members of
its objects in any order.  `Raw.value?` is the value that was read, whatever it was shown as, if nothing
was broken and no object names a member twice.  `depth` counts the containers of a value that lie inside
one another, and a value that was read is kept exactly when there is room for them (`keep_of_value?`).
-/

namespace RealmSetup

namespace Json

/-! ## Depth -/

mutual

/-- How many containers of a value lie inside one another. -/
def depth : Json → Nat
  | .array items => depthAll items + 1
  | .object ms => depthMembers ms + 1
  | _ => 0

/-- The depth of the deepest of some values. -/
def depthAll : List Json → Nat
  | [] => 0
  | j :: items => max j.depth (depthAll items)

/-- The depth of the deepest value among some members. -/
def depthMembers : List (String × Json) → Nat
  | [] => 0
  | (_, j) :: ms => max j.depth (depthMembers ms)

end

theorem depthMembers_le_iff {ms : List (String × Json)} {n : Nat} :
    depthMembers ms ≤ n ↔ ∀ e ∈ ms, e.2.depth ≤ n := by
  induction ms with
  | nil => simp [depthMembers]
  | cons e ms ih =>
    rw [depthMembers, Nat.max_le, ih]
    simp

theorem depthMembers_perm {ms ms' : List (String × Json)} (perm : ms.Perm ms') :
    depthMembers ms = depthMembers ms' := by
  refine Nat.le_antisymm (depthMembers_le_iff.2 fun e he => ?_)
    (depthMembers_le_iff.2 fun e he => ?_)
  · exact depthMembers_le_iff.1 (Nat.le_refl _) e (perm.mem_iff.1 he)
  · exact depthMembers_le_iff.1 (Nat.le_refl _) e (perm.mem_iff.2 he)

/-! ## Values that were read -/

namespace Raw

mutual

/-- The value that was read, if nothing is broken and no object names a member twice. -/
def value? : Raw → Option Json
  | .broken => none
  | .null => some .null
  | .bool b => some (.bool b)
  | .number l => l.number?.map .number
  | .text s => s.map .text
  | .array items closed => if closed then (values? items).map .array else none
  | .object ms closed =>
    if closed then
      (memberValues? ms).bind fun found =>
        if (found.map Prod.fst).Nodup then some (.members found) else none
    else none

/-- The values of some items, if each has one. -/
def values? : List Raw → Option (List Json)
  | [] => some []
  | r :: rest => r.value?.bind fun j => (values? rest).map (j :: ·)

/-- The members of an object in the order of the text, if each has a name and a value. -/
def memberValues? : List (Option String × Raw) → Option (List (String × Json))
  | [] => some []
  | (name, r) :: rest =>
    name.bind fun name => r.value?.bind fun j => (memberValues? rest).map ((name, j) :: ·)

end

theorem isComplete_of_value? {r : Raw} {j : Json} (h : r.value? = some j) : r.isComplete = true := by
  cases r with
  | broken => cases h
  | array items closed =>
    cases closed with
    | true => rfl
    | false => simp [value?] at h
  | object ms closed =>
    cases closed with
    | true => rfl
    | false => simp [value?] at h
  | _ => rfl

theorem value?_array {items : List Raw} {closed : Bool} {j : Json} :
    (Raw.array items closed).value? = some j ↔
      closed = true ∧ ∃ js, values? items = some js ∧ j = .array js := by
  cases closed <;> simp [value?, @eq_comm _ j]

theorem value?_object {ms : List (Option String × Raw)} {closed : Bool} {j : Json} :
    (Raw.object ms closed).value? = some j ↔
      closed = true ∧ ∃ found, memberValues? ms = some found ∧ (found.map Prod.fst).Nodup ∧
        j = .members found := by
  cases closed <;> simp [value?, Option.bind_eq_some_iff, @eq_comm _ j]

theorem values?_cons {r : Raw} {rest : List Raw} {js : List Json} :
    values? (r :: rest) = some js ↔
      ∃ j more, r.value? = some j ∧ values? rest = some more ∧ js = j :: more := by
  simp [values?, Option.bind_eq_some_iff, @eq_comm _ js]

theorem memberValues?_cons {name : Option String} {r : Raw} {rest : List (Option String × Raw)}
    {found : List (String × Json)} :
    memberValues? ((name, r) :: rest) = some found ↔
      ∃ n j more, name = some n ∧ r.value? = some j ∧ memberValues? rest = some more ∧
        found = (n, j) :: more := by
  simp [memberValues?, Option.bind_eq_some_iff, @eq_comm _ found]

end Raw

/-! ## Keeping -/

mutual

/-- A value is kept if there is room for its containers. -/
theorem keep_of_value? (room : Nat) : ∀ (r : Raw) (j : Json), r.value? = some j →
    keep room r = if j.depth ≤ room then .ok j else .error .malformed
  | .broken, j, h => nomatch h
  | .null, j, h => by
    obtain rfl := Option.some.inj h
    rfl
  | .bool b, j, h => by
    obtain rfl := Option.some.inj h
    rfl
  | .number l, j, h => by
    obtain ⟨n, number, rfl⟩ := Option.map_eq_some_iff.1 h
    rw [keep, number]
    rfl
  | .text s, j, h => by
    obtain ⟨text, rfl, rfl⟩ := Option.map_eq_some_iff.1 h
    rfl
  | .array items closed, j, h => by
    obtain ⟨rfl, js, values, rfl⟩ := Raw.value?_array.1 h
    cases room with
    | zero => rw [keep, if_neg (by simp [depth])]
    | succ room =>
      rw [keep, keepItems_of_values? room items js values]
      by_cases fits : depthAll js ≤ room
      · rw [if_pos fits, if_pos (by simpa [depth] using fits)]
        rfl
      · rw [if_neg fits, if_neg (by simpa [depth] using fits)]
        rfl
  | .object ms closed, j, h => by
    obtain ⟨rfl, found, values, distinct, rfl⟩ := Raw.value?_object.1 h
    have same : depthMembers (KeyMap.ofList found).entries = depthMembers found :=
      depthMembers_perm (KeyMap.entries_ofList_perm distinct)
    cases room with
    | zero => rw [keep, if_neg (by simp [depth, members, ofMap])]
    | succ room =>
      rw [keep, keepMembers_of_memberValues? room .empty ms found values]
      by_cases fits : depthMembers found ≤ room
      · rw [if_pos fits, if_pos (by simpa [depth, members, ofMap, same] using fits)]
        rfl
      · rw [if_neg fits, if_neg (by simpa [depth, members, ofMap, same] using fits)]
        rfl

theorem keepItems_of_values? (room : Nat) : ∀ (items : List Raw) (js : List Json),
    Raw.values? items = some js →
    keepItems room items = if depthAll js ≤ room then .ok js else .error .malformed
  | [], js, h => by
    obtain rfl := Option.some.inj h
    rfl
  | r :: rest, js, h => by
    obtain ⟨j, more, value, values, rfl⟩ := Raw.values?_cons.1 h
    rw [keepItems, keep_of_value? room r j value, keepItems_of_values? room rest more values]
    simp only [depthAll, Nat.max_le]
    by_cases first : j.depth ≤ room <;> by_cases others : depthAll more ≤ room <;>
      simp [first, others, bind, Except.bind, pure, Except.pure]

theorem keepMembers_of_memberValues? (room : Nat) (kept : KeyMap Json) :
    ∀ (ms : List (Option String × Raw)) (found : List (String × Json)),
    Raw.memberValues? ms = some found →
    keepMembers room kept ms =
      if depthMembers found ≤ room then .ok (found.foldl (fun m e => m.insert e.1 e.2) kept)
      else .error .malformed
  | [], found, h => by
    obtain rfl := Option.some.inj h
    rfl
  | (name, r) :: rest, found, h => by
    obtain ⟨n, j, more, rfl, value, values, rfl⟩ := Raw.memberValues?_cons.1 h
    rw [keepMembers, keep_of_value? room r j value]
    simp only [depthMembers, Nat.max_le]
    by_cases first : j.depth ≤ room
    · rw [if_pos first]
      refine (keepMembers_of_memberValues? room (kept.insert n j) rest more values).trans ?_
      simp [first]
    · rw [if_neg first, if_neg fun both => first both.1]
      rfl

end

end Json

end RealmSetup
