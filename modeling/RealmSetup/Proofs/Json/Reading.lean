import RealmSetup.Json.Decode

/-!
# Texts in quotes are read as they were written

A text is written between quotes with some of its characters escaped.  Each character is read back from
what it was written as (`Raw.readText_escape`), hence so is the text up to its closing quote
(`Raw.readText_quote`), whatever follows.  On this rests how a text is read as a value
(`Raw.readValue_quote`) and as a member of an object (`Raw.readMembers_last`, `Raw.readMembers_more`), and
what a map of texts is decoded to (`decodeMembers_entries`).
-/

namespace RealmSetup.Json

namespace Raw

variable {acc : Collected} {gs rest : List Glyph} {c : Char}

/-! ## Characters -/

theorem hexQuad?_control : ∀ n < 0x20, hexQuad? (.char '0') (.char '0') (.char (hexDigit (n / 16)))
    (.char (hexDigit (n % 16))) = some n := by
  decide

/-- A code unit that is not the first half of a surrogate pair stands alone, also where another one
follows; it is a character unless it is the second half of a pair. -/
theorem readText_unpaired (acc : Collected) (rest : List Glyph) {a b c d : Glyph} {n : Nat}
    (value : hexQuad? a b c d = some n) (unpaired : isHighSurrogate n = false) :
    readText acc (.char '\\' :: .char 'u' :: a :: b :: c :: d :: rest) =
      readText (if isLowSurrogate n then none else acc.push (Char.ofNat n)) rest := by
  by_cases another : ∃ e f g h gs, rest = .char '\\' :: .char 'u' :: e :: f :: g :: h :: gs
  · obtain ⟨e, f, g, h, gs, rfl⟩ := another
    rw [readText, value]
    simp only [unpaired, Bool.false_eq_true, if_false]
  · rw [readText, value]
    · simp only [unpaired, Bool.false_or]
    · exact fun e f g h gs same => another ⟨e, f, g, h, gs, same⟩

/-- A code unit that is no half of a surrogate pair is a character, also where another one follows. -/
theorem readText_unit (acc : Collected) (rest : List Glyph) {a b c d : Glyph} {n : Nat}
    (value : hexQuad? a b c d = some n) (below : n < 0xD800) :
    readText acc (.char '\\' :: .char 'u' :: a :: b :: c :: d :: rest) =
      readText (acc.push (Char.ofNat n)) rest := by
  have high : isHighSurrogate n = false := by
    rw [isHighSurrogate, decide_eq_false (by omega), Bool.false_and]
  have low : isLowSurrogate n = false := by
    rw [isLowSurrogate, decide_eq_false (by omega), Bool.false_and]
  rw [readText_unpaired acc rest value high, low, if_neg Bool.false_ne_true]

theorem readText_letter {letter : Char} (stands : escaped? letter = some c) :
    readText acc (.char '\\' :: .char letter :: rest) = readText (acc.push c) rest := by
  have other : letter ≠ 'u' := by
    rintro rfl
    exact nomatch stands
  rw [readText, stands]
  · exact fun _ _ _ _ _ _ _ _ _ _ => other
  · exact fun _ _ _ _ _ _ => other

theorem readText_plain (quote : c ≠ '"') (backslash : c ≠ '\\') (control : ¬c.toNat < 0x20) :
    readText acc (.char c :: rest) = readText (acc.push c) rest := by
  rw [readText, if_neg control]
  · exact quote
  · exact fun _ _ _ _ _ _ _ _ _ _ => backslash
  · exact fun _ _ _ _ _ _ => backslash
  · exact fun _ _ _ => backslash
  · exact backslash

/-- Every character is read from what it is written as. -/
theorem readText_escape (acc : Collected) (c : Char) (rest : List Glyph) :
    readText acc ((escape c).map Glyph.char ++ rest) = readText (acc.push c) rest := by
  unfold escape
  -- Seven characters are written as a letter.
  iterate 7
    split
    · next same => subst same; exact readText_letter rfl
  split
  · next control =>
    have unit := readText_unit acc rest (hexQuad?_control c.toNat control)
      (Nat.lt_trans control (by decide))
    rwa [Char.ofNat_toNat] at unit
  · next quote backslash _ _ _ _ _ control => exact readText_plain quote backslash control

/-! ## Texts -/

/-- What stands behind the quote that opens a text. -/
def unquoted (s : String) : List Char := s.toList.flatMap escape ++ ['"']

theorem quote_eq_cons (s : String) : quote s = '"' :: unquoted s :=
  rfl

theorem readText_quote (s : String) (rest : List Glyph) :
    readText (some []) ((unquoted s).map Glyph.char ++ rest) = some (some s, rest) := by
  -- By induction on the characters that are left, with those that were read.
  have along : ∀ cs read, readText (some read) ((cs.flatMap escape ++ ['"']).map Glyph.char ++ rest) =
      some (some (String.ofList (read.reverse ++ cs)), rest) := by
    intro cs
    induction cs with
    | nil =>
      intro read
      show readText (some read) (.char '"' :: rest) = _
      rw [readText, List.append_nil]
      rfl
    | cons c cs ih =>
      intro read
      rw [List.flatMap_cons, List.append_assoc, List.map_append, List.append_assoc, readText_escape]
      refine (ih (c :: read)).trans ?_
      rw [List.reverse_cons, List.append_assoc, List.singleton_append]
  have all := along s.toList []
  rwa [List.reverse_nil, List.nil_append, String.ofList_toList] at all

theorem readValue_quote (fuel : Nat) (s : String) (rest : List Glyph) :
    readValue (fuel + 1) ((quote s).map Glyph.char ++ rest) = (.text (some s), rest) := by
  rw [quote_eq_cons, List.map_cons, List.cons_append, readValue]
  simp [skipBlanks, readText_quote]

/-! ## Members of objects -/

/-- A member that is a text, behind the quote that opens its name. -/
def textMember (name s : String) : List Char := unquoted name ++ ':' :: ' ' :: quote s

/-- What is left where the value of a member was read. -/
theorem exists_read_textMember (fuel : Nat) (name s : String) (gs : List Glyph) :
    ∃ colon value, readText (some []) ((textMember name s).map Glyph.char ++ gs) =
        some (some name, colon) ∧ skipBlanks colon = .char ':' :: value ∧
      readValue (fuel + 1) value = (.text (some s), gs) := by
  refine ⟨(':' :: ' ' :: quote s).map Glyph.char ++ gs, (' ' :: quote s).map Glyph.char ++ gs, ?_, ?_, ?_⟩
  · rw [textMember, List.map_append, List.append_assoc, readText_quote]
  · rfl
  · exact readValue_quote fuel s gs

/-- The last member of an object. -/
theorem readMembers_last (fuel : Nat) (name s : String) (closing : skipBlanks gs = .char '}' :: rest) :
    readMembers (fuel + 2) ((textMember name s).map Glyph.char ++ gs) =
      ([(some name, .text (some s))], true, rest) := by
  obtain ⟨colon, value, named, marked, read⟩ := exists_read_textMember fuel name s gs
  rw [readMembers, named]
  simp only [marked, read, isComplete, if_true, closing]

/-- A member of an object that another follows. -/
theorem readMembers_more (fuel : Nat) (name s : String) (comma : skipBlanks gs = .char ',' :: rest)
    {more : List Glyph} (next : skipBlanks rest = .char '"' :: more) :
    readMembers (fuel + 2) ((textMember name s).map Glyph.char ++ gs) =
      ((some name, .text (some s)) :: (readMembers (fuel + 1) more).1,
        (readMembers (fuel + 1) more).2.1, (readMembers (fuel + 1) more).2.2) := by
  obtain ⟨colon, value, named, marked, read⟩ := exists_read_textMember fuel name s gs
  rw [readMembers, named]
  simp only [marked, read, isComplete, if_true, comma, next]

end Raw

/-! ## Maps -/

variable {α : Type}

/-- What a map holds is put together again from its members. -/
theorem decodeMembers_entries {decode : Decoder α} {raw : α → Raw}
    (reads : ∀ a, decode (raw a) = .ok a) (found : KeyMap α) (entries : List (String × α)) :
    decodeMembers decode found (entries.map fun e => (some e.1, raw e.2)) =
      .ok (entries.foldl (fun m e => m.insert e.1 e.2) found) := by
  induction entries generalizing found with
  | nil => rfl
  | cons e entries ih =>
    rw [List.map_cons, decodeMembers, reads]
    exact ih (found.insert e.1 e.2)

end RealmSetup.Json
