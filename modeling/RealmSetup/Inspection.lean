/-!
# What a search looks at

A search that stops at its first hit looks at the elements in order, up to the hit and at none after
it.
-/

namespace RealmSetup

variable {α : Type}

/-- The elements that a search for an accepted one looks at. -/
def inspected (accept : α → Bool) : List α → List α
  | [] => []
  | a :: rest => if accept a then [a] else a :: inspected accept rest

theorem inspected_prefix (accept : α → Bool) (items : List α) : inspected accept items <+: items := by
  induction items with
  | nil => exact List.prefix_refl []
  | cons a rest ih =>
    simp only [inspected]
    split
    · exact ⟨rest, rfl⟩
    · exact (List.prefix_cons_inj a).2 ih

/-- A search that finds nothing has looked at everything. -/
theorem inspected_of_find?_eq_none {accept : α → Bool} {items : List α}
    (nothing : items.find? accept = none) : inspected accept items = items := by
  induction items with
  | nil => rfl
  | cons a rest ih =>
    simp only [List.find?_eq_none, List.forall_mem_cons] at nothing
    rw [inspected, if_neg nothing.1, ih (List.find?_eq_none.2 nothing.2)]

/-- A search that comes to an accepted element looks at nothing after it. -/
theorem inspected_append_cons {accept : α → Bool} {a : α} (hit : accept a = true) (rest : List α)
    {before : List α} (misses : ∀ b ∈ before, accept b = false) :
    inspected accept (before ++ a :: rest) = before ++ [a] := by
  induction before with
  | nil => exact if_pos hit
  | cons b before ih =>
    rw [List.forall_mem_cons] at misses
    simp [inspected, misses.1, ih misses.2]

end RealmSetup
