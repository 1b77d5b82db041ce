/-!
# Searching text

Blank characters, whole words, and one text inside another, all on the characters of a text.  Blank
means the Unicode property `White_Space`.
-/

namespace RealmSetup.Text

/-- Whether a character has the property `White_Space`. -/
def isBlank (c : Char) : Bool :=
  let n := c.toNat
  (9 ≤ n && n ≤ 13) || n == 0x20 || n == 0x85 || n == 0xA0 || n == 0x1680
    || (0x2000 ≤ n && n ≤ 0x200A) || n == 0x2028 || n == 0x2029 || n == 0x202F || n == 0x205F
    || n == 0x3000

/-- Whether a text holds nothing but blank characters. -/
def allBlank (s : String) : Bool :=
  s.toList.all isBlank

/-- Whether `needle` stands somewhere in `hay`. -/
def isInside (needle : List Char) : List Char → Bool
  | [] => needle.isEmpty
  | c :: rest => needle.isPrefixOf (c :: rest) || isInside needle rest

/-- Whether the text `needle` stands somewhere in the text `hay`. -/
def contains (hay needle : String) : Bool :=
  isInside needle.toList hay.toList

theorem isInside_iff {needle hay : List Char} :
    isInside needle hay = true ↔ ∃ before after, hay = before ++ needle ++ after := by
  induction hay with
  | nil =>
    constructor
    · intro h
      have : needle = [] := by simpa [isInside] using h
      exact ⟨[], [], by simp [this]⟩
    · rintro ⟨before, after, h⟩
      simp_all [isInside]
  | cons c rest ih =>
    simp only [isInside, Bool.or_eq_true, List.isPrefixOf_iff_prefix, ih]
    constructor
    · rintro (⟨after, h⟩ | ⟨before, after, h⟩)
      · exact ⟨[], after, by simpa using h.symm⟩
      · exact ⟨c :: before, after, by simp [h]⟩
    · rintro ⟨before, after, h⟩
      cases before with
      | nil => exact .inl ⟨after, by simpa using h.symm⟩
      | cons b before =>
        simp only [List.cons_append, List.cons.injEq] at h
        exact .inr ⟨before, after, h.2⟩

/-- Whether two texts are equal up to the case of ASCII letters. -/
def equalIgnoringAsciiCase (s t : String) : Bool :=
  s.toList.map Char.toLower == t.toList.map Char.toLower

end RealmSetup.Text
