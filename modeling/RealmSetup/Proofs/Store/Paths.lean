import Mathlib.Data.List.TakeWhile
import RealmSetup.Store.FileVault

/-!
# The names on a path

What a path means on a disk is given by its `steps`, the names on it with single points and doubled
slashes passed over.  The parent of a path goes by all of its steps but the last, and its draft by the same
ones and then another last one (`Parts`), unless the draft is the file itself.  Both are cut from the end
of the path, where what means nothing is dropped first; this changes no step (`stepsOf_trimEnd`).
-/

namespace RealmSetup

namespace FilePath

/-- The names in the characters of a path that mean something. -/
def stepsOf (cs : List Char) : List (List Char) :=
  (cs.splitOn '/').filter fun name => name != [] && name != ['.']

/-- The names on a path that mean something. -/
def steps (path : String) : List String := (stepsOf path.toList).map String.ofList

/-! ## Cutting -/

theorem stepsOf_append_slash (as bs : List Char) :
    stepsOf (as ++ '/' :: bs) = stepsOf as ++ stepsOf bs := by
  have split : (as ++ '/' :: bs).splitOn '/' = as.splitOn '/' ++ bs.splitOn '/' :=
    List.splitOnP_append_cons as bs (by decide)
  rw [stepsOf, split, List.filter_append]
  rfl

theorem stepsOf_name (name : List Char) (slashless : '/' ∉ name) (h : name ≠ [])
    (h' : name ≠ ['.']) : stepsOf name = [name] := by
  rw [stepsOf, List.splitOn_eq_singleton slashless]
  simp [h, h']

/-- What is dropped at the end of a path is no step. -/
theorem stepsOf_trimEnd (cs : List Char) : stepsOf (trimEnd cs).reverse = stepsOf cs.reverse := by
  induction cs using trimEnd.induct with
  | case1 => rw [trimEnd]
  | case2 c rest ih =>
    rw [trimEnd, ih, List.reverse_cons (a := '/'), stepsOf_append_slash]
    exact (List.append_nil _).symm
  | case3 rest ih =>
    rw [trimEnd, ih, List.reverse_cons, List.reverse_cons, List.reverse_cons, List.append_assoc,
      stepsOf_append_slash]
    exact (stepsOf_append_slash _ ['.']).symm
  | case4 cs slash doubled point =>
    rw [trimEnd]
    all_goals assumption

/-- What stands before the last name of a path, in reverse, is nothing or begins with a slash. -/
theorem stepsOf_before {before : List Char} (h : ∀ c ∈ before.head?, c = '/') (name : List Char) :
    stepsOf (before.reverse ++ name) = stepsOf before.reverse ++ stepsOf name := by
  cases before with
  | nil => rfl
  | cons c rest =>
    obtain rfl := h c rfl
    rw [List.reverse_cons, List.append_assoc, List.singleton_append, stepsOf_append_slash,
      stepsOf_append_slash]
    exact congrArg (· ++ _) (List.append_nil _).symm

theorem slash_not_mem_divide (path : String) : '/' ∉ (divide path).1 := fun within => by
  simpa using List.mem_takeWhile_imp within

theorem head_divide (path : String) : ∀ c ∈ (divide path).2.head?, c = '/' := by
  intro c first
  have stops := List.head?_dropWhile_not (· ≠ '/') (trimEnd path.toList.reverse)
  have first : (List.dropWhile (· ≠ '/') (trimEnd path.toList.reverse)).head? = some c := first
  rw [first] at stops
  simpa using stops

/-- A path goes by the steps before its last name, and then by that name. -/
theorem stepsOf_divide (path : String) :
    stepsOf path.toList = stepsOf (divide path).2.reverse ++ stepsOf (divide path).1.reverse := by
  rw [← stepsOf_before (head_divide path), ← List.reverse_append]
  have whole : (divide path).1 ++ (divide path).2 = trimEnd path.toList.reverse :=
    List.takeWhile_append_dropWhile
  rw [whole, stepsOf_trimEnd, List.reverse_reverse]

/-- The parent of a path goes by the steps before its last name. -/
theorem stepsOf_parent? {path parent : String} (h : parent? path = some parent) :
    stepsOf parent.toList = stepsOf (divide path).2.reverse := by
  unfold parent? at h
  dsimp only at h
  split at h
  · cases h
  · obtain rfl := Option.some.inj h
    rw [String.toList_ofList, stepsOf_trimEnd]

theorem slash_not_mem_stem {name : List Char} (h : '/' ∉ name) : '/' ∉ stem name := by
  unfold stem
  split
  · rename_i c rest cut
    intro within
    have kept : '/' ∈ name.dropWhile (· ≠ '.') := cut ▸ List.mem_cons_of_mem _ within
    exact h ((List.dropWhile_sublist _).subset kept)
  · exact h

/-- The last name of a path with another extension, in reverse. -/
theorem stepsOf_withExtension {path extension : String} (named : isFileName (divide path).1 = true)
    (slashless : '/' ∉ extension.toList) (there : extension.toList ≠ []) :
    stepsOf (withExtension path extension).toList =
      stepsOf (divide path).2.reverse ++ [(stem (divide path).1).reverse ++ '.' :: extension.toList] := by
  have text : (withExtension path extension).toList =
      (divide path).2.reverse ++ ((stem (divide path).1).reverse ++ '.' :: extension.toList) := by
    simp [withExtension, named]
  have stemmed := slash_not_mem_stem (slash_not_mem_divide path)
  rw [text, stepsOf_before (head_divide path),
    stepsOf_name ((stem (divide path).1).reverse ++ '.' :: extension.toList)]
  · simp [stemmed, slashless]
  · simp
  · simp [List.append_eq_singleton_iff, there]

end FilePath

namespace FileVault

open FilePath

/-- A path of which the draft is another file: both lie in one directory, under different names. -/
structure Parts (path : String) where
  directory : List String
  name : String
  draft : String
  steps_eq : steps path = directory ++ [name]
  steps_draft : steps (draftPath path) = directory ++ [draft]
  steps_parent : ∀ parent, parent? path = some parent → steps parent = directory
  name_ne_draft : name ≠ draft
  name_ne : name ≠ ".."
  draft_ne : draft ≠ ".."

/-- A path that goes by other steps than its draft has such parts. -/
theorem nonempty_parts {path : String} (apart : steps (draftPath path) ≠ steps path) :
    Nonempty (Parts path) := by
  have named : isFileName (divide path).1 = true := by
    by_contra none
    refine apart (congrArg steps ?_)
    simp [draftPath, withExtension, none]
  obtain ⟨there, notPoint, notPoints⟩ :
      (divide path).1 ≠ [] ∧ (divide path).1 ≠ ['.'] ∧ (divide path).1 ≠ ['.', '.'] := by
    simpa [isFileName, and_assoc] using named
  have steps_eq : steps path = (stepsOf (divide path).2.reverse).map String.ofList ++
      [String.ofList (divide path).1.reverse] := by
    rw [steps, stepsOf_divide, stepsOf_name (divide path).1.reverse, List.map_append]
    · rfl
    · simpa using slash_not_mem_divide path
    · simpa using there
    · simpa [List.reverse_eq_iff] using notPoint
  have steps_draft : steps (draftPath path) = (stepsOf (divide path).2.reverse).map String.ofList ++
      [String.ofList ((stem (divide path).1).reverse ++ ['.', 't', 'm', 'p'])] := by
    rw [steps, draftPath, stepsOf_withExtension named (by decide) (by decide), List.map_append]
    rfl
  refine ⟨⟨_, _, _, steps_eq, steps_draft, fun parent h => ?_, fun same => ?_, fun same => ?_,
    fun same => ?_⟩⟩
  · rw [steps, stepsOf_parent? h]
  · rw [steps_eq, steps_draft, same] at apart
    exact apart rfl
  · refine notPoints ?_
    have characters := congrArg String.toList same
    simpa [List.reverse_eq_iff] using characters
  · have lengths := congrArg (List.length ∘ String.toList) same
    simp at lengths

end FileVault

end RealmSetup
