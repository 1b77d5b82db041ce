import RealmSetup.Proofs.Json.Printing

/-!
# A value ends where it ends

The value in front of a text is read from the glyphs it is spelled with and from nothing behind them
(`splits`): whatever else is put there, the same value is read and what follows it is left.  Two places look
further than that.  A number goes on for as long as a digit, a point or an exponent follows, so what is put
behind a number must not begin with one of these (`Stops`).  And the first half of a surrogate pair is held
against the code unit behind it, but that lies within the same text, before its closing quote
(`HasText.behind_half`).

A list or an object also ends in a character, its own bracket or brace (`exists_document`), and there the
bytes of a text can be divided.
-/

namespace RealmSetup.Json.Raw

variable {gs left : List Glyph} {acc : Collected}

/-! ## Blanks -/

/-- Nothing but blanks. -/
def Blank (gs : List Glyph) : Prop :=
  ∀ g ∈ gs, g = .char ' ' ∨ g = .char '\t' ∨ g = .char '\n' ∨ g = .char '\r'

theorem skipBlanks_append {blanks : List Glyph} (blank : Blank blanks) (gs : List Glyph) :
    skipBlanks (blanks ++ gs) = skipBlanks gs := by
  induction blanks with
  | nil => rfl
  | cons g blanks ih =>
    rw [List.cons_append, skipBlanks, if_pos (blank g (by simp)),
      ih fun g' mem => blank g' (by simp [mem])]

/-- What is skipped are blanks, and no blank stands in front of what is left. -/
theorem exists_blanks (gs : List Glyph) :
    ∃ blanks, Blank blanks ∧ gs = blanks ++ skipBlanks gs ∧
      ∀ g rest, skipBlanks gs = g :: rest → ∀ more, skipBlanks (g :: more) = g :: more := by
  fun_induction skipBlanks gs with
  | case1 => exact ⟨[], by simp [Blank], rfl, nofun⟩
  | case2 g rest blank ih =>
    obtain ⟨blanks, all, split, firm⟩ := ih
    refine ⟨g :: blanks, ?_, by rw [List.cons_append, ← split], firm⟩
    simpa [Blank] using ⟨blank, all⟩
  | case3 g rest other =>
    refine ⟨[], by simp [Blank], rfl, ?_⟩
    rintro g' rest' same more
    cases same
    rw [skipBlanks, if_neg other]

theorem skipBlanks_mark {blanks : List Glyph} (blank : Blank blanks) (g : Glyph)
    (firm : ∀ more, skipBlanks (g :: more) = g :: more) (more : List Glyph) :
    skipBlanks (blanks ++ g :: more) = g :: more :=
  (skipBlanks_append blank _).trans (firm more)

/-- A mark behind blanks. -/
theorem exists_mark {g : Glyph} (mark : skipBlanks gs = g :: left) :
    ∃ blanks, Blank blanks ∧ gs = blanks ++ g :: left ∧
      ∀ more, skipBlanks (blanks ++ g :: more) = g :: more := by
  obtain ⟨blanks, blank, split, firm⟩ := exists_blanks gs
  exact ⟨blanks, blank, by rw [← mark]; exact split, skipBlanks_mark blank g (firm g left mark)⟩

theorem stops_append {blanks rest : List Glyph} (blank : Blank blanks) (stops : Stops rest) :
    Stops (blanks ++ rest) := by
  cases blanks with
  | nil => exact stops
  | cons g blanks => obtain rfl | rfl | rfl | rfl := blank g (by simp) <;> simp [Stops, isDigit]

/-! ## Texts -/

/-- Behind the mark of a code unit stand its four digits. -/
theorem exists_digits_of_readText {found : Option String × List Glyph}
    (read : readText acc (.char '\\' :: .char 'u' :: gs) = some found) :
    ∃ a b c d rest, gs = a :: b :: c :: d :: rest := by
  rcases gs with _ | ⟨a, _ | ⟨b, _ | ⟨c, _ | ⟨d, rest⟩⟩⟩⟩
  case cons.cons.cons.cons => exact ⟨a, b, c, d, rest, rfl⟩
  all_goals simp [readText, escaped?] at read

/-- The first half of a surrogate pair without a second half is no character, whatever follows that is not
another code unit. -/
theorem readText_half (acc : Collected) {a b c d : Glyph} {n : Nat} (value : hexQuad? a b c d = some n)
    (high : isHighSurrogate n = true)
    (alone : ∀ e f g h rest, gs ≠ .char '\\' :: .char 'u' :: e :: f :: g :: h :: rest) :
    readText acc (.char '\\' :: .char 'u' :: a :: b :: c :: d :: gs) = readText none gs := by
  rw [readText, value]
  · simp [high]
  · exact alone

/-- A text between quotes stands at the beginning and is read, whatever follows it. -/
def HasText (acc : Collected) (gs : List Glyph) (s : Option String) (left : List Glyph) : Prop :=
  ∃ doc, gs = doc ++ left ∧ doc.getLast? = some (.char '"') ∧
    ∀ rest, readText acc (doc ++ rest) = some (s, rest)

theorem HasText.behind {acc' : Collected} {s : Option String} (front : List Glyph)
    (h : HasText acc' gs s left) (step : ∀ more, readText acc (front ++ more) = readText acc' more) :
    HasText acc (front ++ gs) s left := by
  obtain ⟨doc, rfl, ends, reads⟩ := h
  refine ⟨front ++ doc, (List.append_assoc ..).symm, ?_, fun rest => ?_⟩
  · rw [List.getLast?_append, ends, Option.some_or]
  · rw [List.append_assoc, step, reads]

/-- Half a surrogate pair is no character: what follows the end of the text cannot complete it. -/
theorem HasText.behind_half {s : Option String} {a b c d : Glyph} {n : Nat} (h : HasText none gs s left)
    (value : hexQuad? a b c d = some n) (high : isHighSurrogate n = true)
    (alone : ∀ e f g h rest, gs ≠ .char '\\' :: .char 'u' :: e :: f :: g :: h :: rest) :
    HasText acc (.char '\\' :: .char 'u' :: a :: b :: c :: d :: gs) s left := by
  obtain ⟨doc, rfl, ends, reads⟩ := h
  refine ⟨[.char '\\', .char 'u', a, b, c, d] ++ doc, rfl, ?_, fun rest => ?_⟩
  · rw [List.getLast?_append, ends, Option.some_or]
  · refine (readText_half acc value high ?_).trans (reads rest)
    rintro e f g h more same
    obtain _ | ⟨mark, _ | ⟨unit, doc⟩⟩ := doc
    · cases ends
    · cases List.head_eq_of_cons_eq same
      cases ends
    · obtain ⟨rfl, rfl, -⟩ : mark = .char '\\' ∧ unit = .char 'u' ∧ doc ++ rest = _ := by
        simpa using same
      have read : readText none (.char '\\' :: .char 'u' :: doc) = some (s, []) := by
        simpa using reads []
      obtain ⟨a, b, c, d, digits, rfl⟩ := exists_digits_of_readText read
      exact alone a b c d (digits ++ left) rfl

/-- A text between quotes is read from what stands before its end, whatever follows. -/
theorem hasText {s : Option String} (read : readText acc gs = some (s, left)) :
    HasText acc gs s left := by
  fun_induction readText acc gs with
  | case2 acc gs ih => exact (ih read).behind [_] fun _ => by simp [readText]
  | case3 acc gs =>
    cases read
    exact ⟨[.char '"'], rfl, rfl, fun rest => by simp [readText]⟩
  | case6 acc a b c d e f g h gs n value high m value' low ih =>
    refine (ih read).behind [_, _, _, _, _, _, _, _, _, _, _, _] fun more => ?_
    simp [readText, value, high, value', low]
  | case7 acc a b c d e f g h gs n value high m value' low ih =>
    refine (ih read).behind [_, _, _, _, _, _, _, _, _, _, _, _] fun more => ?_
    simp [readText, value, high, value', low]
  | case8 acc a b c d e f g h gs n value low acc' ih =>
    exact (ih read).behind [_, _, _, _, _, _]
      fun more => readText_unpaired acc more value (by simpa using low)
  | case10 acc a b c d gs alone n value ih =>
    by_cases high : isHighSurrogate n = true
    · simp only [high, Bool.true_or, if_true, dite_true] at ih read
      exact (ih read).behind_half value high fun e f g h rest same => alone e f g h rest same
    · rw [Bool.not_eq_true] at high
      simp only [high, Bool.false_or, dite_eq_ite] at ih read
      exact (ih read).behind [_, _, _, _, _, _]
        fun more => readText_unpaired acc more value high
  | case12 acc c gs _ _ e stands ih =>
    exact (ih read).behind [_, _] fun more => readText_letter stands
  | case15 acc c gs quote _ _ _ backslash control ih =>
    exact (ih read).behind [_] fun more => readText_plain quote backslash control
  | _ => cases read

/-! ## Numbers -/

theorem takeDigits_eq {ds : List Char} (taken : takeDigits gs = (ds, left)) :
    gs = ds.map Glyph.char ++ left ∧ ∀ c ∈ ds, isDigit c = true := by
  fun_induction takeDigits gs generalizing ds with
  | case1 c gs digit ds' rest more ih =>
    cases taken
    obtain ⟨rfl, digits⟩ := ih more
    exact ⟨rfl, by simpa using ⟨digit, digits⟩⟩
  | case2 c gs other =>
    cases taken
    exact ⟨rfl, by simp⟩
  | case3 gs =>
    cases taken
    exact ⟨rfl, by simp⟩

theorem exists_exponentDigits {negative : Bool} {exponent : Option (Bool × List Char)}
    (read : readExponentDigits negative gs = some (exponent, left)) :
    ∃ (c : Char) (cs : List Char), isDigit c = true ∧ gs = (c :: cs).map Glyph.char ++ left ∧
      ∀ rest, Stops rest →
        readExponentDigits negative ((c :: cs).map Glyph.char ++ rest) = some (exponent, rest) := by
  rw [readExponentDigits] at read
  split at read
  · cases read
  · next ds left' filled taken =>
    cases read
    obtain ⟨rfl, digits⟩ := takeDigits_eq taken
    cases ds with
    | nil => exact absurd rfl filled
    | cons c cs =>
      refine ⟨c, cs, digits c (by simp), rfl, fun rest stops => ?_⟩
      rw [readExponentDigits, takeDigits_append digits stops]

theorem exists_exponentSign {exponent : Option (Bool × List Char)}
    (read : readExponentSign gs = some (exponent, left)) :
    ∃ cs : List Char, gs = cs.map Glyph.char ++ left ∧ ∀ rest, Stops rest →
      readExponentSign (cs.map Glyph.char ++ rest) = some (exponent, rest) := by
  unfold readExponentSign at read
  split at read
  · obtain ⟨c, cs, -, rfl, reads⟩ := exists_exponentDigits read
    exact ⟨'+' :: c :: cs, rfl, reads⟩
  · obtain ⟨c, cs, -, rfl, reads⟩ := exists_exponentDigits read
    exact ⟨'-' :: c :: cs, rfl, reads⟩
  · obtain ⟨c, cs, digit, rfl, reads⟩ := exists_exponentDigits read
    refine ⟨c :: cs, rfl, fun rest stops => ?_⟩
    rw [List.map_cons, List.cons_append, readExponentSign]
    · exact reads rest stops
    · rintro gs same
      cases same
      cases digit
    · rintro gs same
      cases same
      cases digit

/-- An exponent, or nothing, is read from its characters alone; before it, digits and a fraction end. -/
theorem exists_exponent {exponent : Option (Bool × List Char)}
    (read : readExponent gs = some (exponent, left)) :
    ∃ cs : List Char, gs = cs.map Glyph.char ++ left ∧ ∀ rest, Stops rest →
      (∀ c more, cs.map Glyph.char ++ rest = .char c :: more → isDigit c = false ∧ c ≠ '.') ∧
        readExponent (cs.map Glyph.char ++ rest) = some (exponent, rest) := by
  unfold readExponent at read
  split at read
  · obtain ⟨cs, rfl, reads⟩ := exists_exponentSign read
    refine ⟨'e' :: cs, rfl, fun rest stops => ⟨?_, reads rest stops⟩⟩
    rintro c more same
    cases same
    decide
  · obtain ⟨cs, rfl, reads⟩ := exists_exponentSign read
    refine ⟨'E' :: cs, rfl, fun rest stops => ⟨?_, reads rest stops⟩⟩
    rintro c more same
    cases same
    decide
  · cases read
    refine ⟨[], rfl, fun rest stops => ⟨?_, readExponent_of_stops stops⟩⟩
    rintro c more rfl
    exact ⟨stops.1, stops.2.1⟩

/-- A fraction, or nothing, is read from its characters alone; before it, digits end. -/
theorem exists_fraction {fraction : Option (List Char)}
    (read : readFraction gs = some (fraction, left)) :
    ∃ cs : List Char, gs = cs.map Glyph.char ++ left ∧ ∀ rest,
      (∀ c more, rest = .char c :: more → isDigit c = false ∧ c ≠ '.') →
      (∀ c more, cs.map Glyph.char ++ rest = .char c :: more → isDigit c = false) ∧
        readFraction (cs.map Glyph.char ++ rest) = some (fraction, rest) := by
  unfold readFraction at read
  split at read
  · next gs =>
    split at read
    · cases read
    · next ds left' filled taken =>
      cases read
      obtain ⟨rfl, digits⟩ := takeDigits_eq taken
      cases ds with
      | nil => exact absurd rfl filled
      | cons d ds =>
        refine ⟨'.' :: d :: ds, rfl, fun rest other => ⟨?_, ?_⟩⟩
        · rintro c more same
          cases same
          decide
        · rw [List.map_cons, List.cons_append, readFraction,
            takeDigits_of_other digits fun c more same => (other c more same).1]
  · cases read
    refine ⟨[], rfl, fun rest other => ⟨fun c more same => (other c more same).1, ?_⟩⟩
    rw [List.map_nil, List.nil_append, readFraction]
    intro more same
    exact (other '.' more same).2 rfl

/-- A number is read from its characters alone, of which the first is a digit, if what follows does not go
on with it. -/
theorem exists_number {negative : Bool} {l : Literal}
    (read : readNumber negative gs = some (l, left)) :
    ∃ (c : Char) (cs : List Char), isDigit c = true ∧ gs = (c :: cs).map Glyph.char ++ left ∧
      ∀ rest, Stops rest →
        readNumber negative ((c :: cs).map Glyph.char ++ rest) = some (l, rest) := by
  rw [readNumber] at read
  split at read
  · cases read
  · cases read
  · next whole more filled zero taken =>
    obtain ⟨rfl, digits⟩ := takeDigits_eq taken
    split at read
    · cases read
    · next fraction more' readsFraction =>
      split at read
      · cases read
      · next exponent left' readsExponent =>
        cases read
        obtain ⟨fs, rfl, fractions⟩ := exists_fraction readsFraction
        obtain ⟨es, rfl, exponents⟩ := exists_exponent readsExponent
        cases whole with
        | nil => exact absurd rfl filled
        | cons c ds =>
          refine ⟨c, ds ++ (fs ++ es), digits c (by simp), by simp, fun rest stops => ?_⟩
          obtain ⟨behind, exponent'⟩ := exponents rest stops
          obtain ⟨other, fraction'⟩ := fractions _ behind
          have whole' := takeDigits_of_other digits other
          have together : ((c :: (ds ++ (fs ++ es))).map Glyph.char ++ rest) =
              (c :: ds).map Glyph.char ++ (fs.map Glyph.char ++ (es.map Glyph.char ++ rest)) := by
            simp
          rw [together, readNumber, whole']
          split
          · next empty => cases empty
          · next same => cases same; exact absurd rfl (zero _ _)
          · next same => cases same; simp only [fraction', exponent']

/-! ## Words -/

theorem expect_eq_some_iff {cs : List Char} : expect cs gs = some left ↔ gs = cs.map Glyph.char ++ left := by
  induction cs generalizing gs with
  | nil => simp [expect]
  | cons c cs ih =>
    rcases gs with _ | ⟨d | _, gs⟩
    · simp [expect]
    · by_cases same : c = d
      · simp [expect, same, ih]
      · simp [expect, same, Ne.symm same]
    · simp [expect]

/-! ## Values -/

variable {doc : List Glyph} {r : Raw} {g : Glyph} {fuel : Nat}

/-- The last of some glyphs is a character. -/
def EndsInChar (doc : List Glyph) : Prop :=
  ∃ c, doc.getLast? = some (.char c)

theorem endsInChar_singleton (c : Char) : EndsInChar [.char c] :=
  ⟨c, rfl⟩

theorem EndsInChar.behind (ends : EndsInChar doc) (front : List Glyph) : EndsInChar (front ++ doc) := by
  obtain ⟨c, last⟩ := ends
  exact ⟨c, by rw [List.getLast?_append, last, Option.some_or]⟩

theorem EndsInChar.ne_nil (ends : EndsInChar doc) : doc ≠ [] := by
  rintro rfl
  obtain ⟨c, last⟩ := ends
  cases last

/-- The end of a list or an object was reached. -/
def IsClosed : Raw → Prop
  | .array _ closed => closed = true
  | .object _ closed => closed = true
  | _ => False

/-- A value is read from these glyphs alone, whatever follows that does not go on with a number. -/
structure Spells (doc : List Glyph) (r : Raw) : Prop where
  reads : ∀ fuel rest, doc.length ≤ fuel → (∀ l, r = .number l → Stops rest) →
    readValue fuel (doc ++ rest) = (r, rest)
  /-- A bracket or a brace stands at the end of a list or an object. -/
  ends : r.IsClosed → EndsInChar doc

/-- The items of a list are read from these glyphs, with the closing bracket. -/
structure SpellsItems (doc : List Glyph) (items : List Raw) : Prop where
  reads : ∀ fuel rest, doc.length ≤ fuel → readItems fuel (doc ++ rest) = (items, true, rest)
  ends : EndsInChar doc

/-- The members of an object are read from these glyphs, with the closing brace. -/
structure SpellsMembers (doc : List Glyph) (members : List (Option String × Raw)) : Prop where
  reads : ∀ fuel rest, doc.length ≤ fuel → readMembers fuel (doc ++ rest) = (members, true, rest)
  ends : EndsInChar doc

theorem readValue_of_skipBlanks {gs gs' : List Glyph} (same : skipBlanks gs = skipBlanks gs') :
    readValue (fuel + 1) gs = readValue (fuel + 1) gs' := by
  simp only [readValue, same]

/-- Blanks may stand in front of a value. -/
theorem Spells.of_mark (doc : List Glyph) (mark : skipBlanks gs = g :: (doc ++ left))
    (reads : ∀ fuel rest, doc.length ≤ fuel → (∀ l, r = .number l → Stops rest) →
      readValue (fuel + 1) (g :: (doc ++ rest)) = (r, rest))
    (ends : r.IsClosed → EndsInChar doc) :
    ∃ doc', gs = doc' ++ left ∧ Spells doc' r := by
  obtain ⟨blanks, blank, rfl, firm⟩ := exists_mark mark
  refine ⟨blanks ++ g :: doc, by simp, fun fuel rest enough stops => ?_, fun closed => ?_⟩
  · obtain _ | fuel := fuel
    · simp at enough
    · rw [List.append_assoc, List.cons_append, readValue_of_skipBlanks (skipBlanks_append blank _)]
      refine reads fuel rest ?_ stops
      simp only [List.length_append, List.length_cons] at enough
      omega
  · exact ((ends closed).behind [g]).behind blanks

/-- What a reader of values finds complete, it finds in front of anything else too. -/
def SplitsValues (fuel : Nat) : Prop :=
  ∀ {gs r left}, readValue fuel gs = (r, left) → r.isComplete = true →
    ∃ doc, gs = doc ++ left ∧ Spells doc r

def SplitsItems (fuel : Nat) : Prop :=
  ∀ {gs items left}, readItems fuel gs = (items, true, left) →
    ∃ doc, gs = doc ++ left ∧ SpellsItems doc items

def SplitsMembers (fuel : Nat) : Prop :=
  ∀ {gs members left}, readMembers fuel gs = (members, true, left) →
    ∃ doc, gs = doc ++ left ∧ SpellsMembers doc members

theorem splits_word {cs : List Char} {value : Raw} (mark : skipBlanks gs = g :: gs')
    (read : readWord cs value gs' = (r, left)) (complete : r.isComplete = true)
    (other : ¬value.IsClosed)
    (reads : ∀ fuel more, readValue (fuel + 1) (g :: more) = readWord cs value more) :
    ∃ doc, gs = doc ++ left ∧ Spells doc r := by
  rw [readWord] at read
  split at read
  · cases read
    cases complete
  · next spelled =>
    cases read
    rw [expect_eq_some_iff.1 spelled] at mark
    refine Spells.of_mark _ mark (fun fuel rest _ _ => ?_) fun closed => absurd closed other
    rw [reads, readWord, expect_eq_some_iff.2 rfl]

theorem splits_number {negative : Bool} {gs' : List Glyph}
    (read : numberOrBroken (readNumber negative gs') = (r, left)) (complete : r.isComplete = true) :
    ∃ (l : Literal) (c : Char) (cs : List Char), r = .number l ∧ isDigit c = true ∧
      gs' = .char c :: (cs.map Glyph.char ++ left) ∧ ∀ rest, Stops rest →
        readNumber negative (.char c :: (cs.map Glyph.char ++ rest)) = some (l, rest) := by
  cases found : readNumber negative gs' with
  | none =>
    rw [found] at read
    cases read
    cases complete
  | some p =>
    obtain ⟨l, left'⟩ := p
    rw [found] at read
    cases read
    obtain ⟨c, cs, digit, rfl, reads⟩ := exists_number found
    exact ⟨l, c, cs, rfl, digit, rfl, reads⟩

/-- An empty list or object, with blanks between its ends. -/
theorem Spells.of_pair {blanks : List Glyph} {opening closing : Char}
    (mark : skipBlanks gs = .char opening :: (blanks ++ .char closing :: left))
    (reads : ∀ fuel more,
      readValue (fuel + 1) (.char opening :: (blanks ++ .char closing :: more)) = (r, more)) :
    ∃ doc, gs = doc ++ left ∧ Spells doc r := by
  refine Spells.of_mark (blanks ++ [.char closing]) (by simpa using mark)
    (fun fuel rest _ _ => by simpa using reads fuel rest)
    fun _ => (endsInChar_singleton closing).behind blanks

theorem splits_list (items : SplitsItems fuel) {gs' : List Glyph}
    (mark : skipBlanks gs = .char '[' :: gs')
    (read : readValue (fuel + 1) (.char '[' :: gs') = (r, left)) (complete : r.isComplete = true) :
    ∃ doc, gs = doc ++ left ∧ Spells doc r := by
  have bracket : ∀ more, skipBlanks (.char '[' :: more) = .char '[' :: more := fun _ => rfl
  by_cases empty : ∃ rest, skipBlanks gs' = .char ']' :: rest
  · obtain ⟨rest, closes⟩ := empty
    obtain ⟨blanks, -, rfl, skips⟩ := exists_mark closes
    simp only [readValue, bracket, skips] at read
    cases read
    exact Spells.of_pair mark fun fuel more => by simp only [readValue, bracket, skips]
  · rw [readValue_array fuel rfl fun rest same => empty ⟨rest, same⟩] at read
    rcases listed : readItems fuel (skipBlanks gs') with ⟨found, closed, left'⟩
    rw [listed] at read
    cases read
    obtain rfl : closed = true := complete
    obtain ⟨doc, split, spells⟩ := items listed
    obtain ⟨first, doc, rfl⟩ := List.exists_cons_of_ne_nil spells.ends.ne_nil
    rw [List.cons_append] at split
    obtain ⟨blanks, -, rfl, skips⟩ := exists_mark split
    refine Spells.of_mark (blanks ++ first :: doc) (by simpa using mark)
      (fun fuel rest enough _ => ?_) fun _ => spells.ends.behind blanks
    rw [List.append_assoc, List.cons_append, readValue_array fuel (skips _), ← List.cons_append,
      spells.reads fuel rest (by simp at enough ⊢; omega)]
    rintro more same
    cases same
    exact empty ⟨_, split⟩

theorem splits_object (members : SplitsMembers fuel) {gs' : List Glyph}
    (mark : skipBlanks gs = .char '{' :: gs')
    (read : readValue (fuel + 1) (.char '{' :: gs') = (r, left)) (complete : r.isComplete = true) :
    ∃ doc, gs = doc ++ left ∧ Spells doc r := by
  have brace : ∀ more, skipBlanks (.char '{' :: more) = .char '{' :: more := fun _ => rfl
  simp only [readValue, brace] at read
  split at read
  · next rest closes =>
    cases read
    obtain ⟨blanks, -, rfl, skips⟩ := exists_mark closes
    exact Spells.of_pair mark fun fuel more => by simp only [readValue, brace, skips]
  · next names opens =>
    rcases listed : readMembers fuel names with ⟨found, closed, left'⟩
    rw [listed] at read
    cases read
    obtain rfl : closed = true := complete
    obtain ⟨doc, rfl, spells⟩ := members listed
    obtain ⟨blanks, -, rfl, skips⟩ := exists_mark opens
    refine Spells.of_mark (blanks ++ .char '"' :: doc) (by simpa using mark)
      (fun fuel rest enough _ => ?_) fun _ => (spells.ends.behind [.char '"']).behind blanks
    rw [List.append_assoc, List.cons_append]
    simp only [readValue, brace, skips, spells.reads fuel rest (by simp at enough; omega)]
  · cases read
    cases complete

theorem splitsValues_succ (items : SplitsItems fuel) (members : SplitsMembers fuel) :
    SplitsValues (fuel + 1) := by
  intro gs r left read complete
  rw [readValue] at read
  split at read
  case h_1 mark => exact splits_word mark read complete id fun _ _ => rfl
  case h_2 mark => exact splits_word mark read complete id fun _ _ => rfl
  case h_3 mark => exact splits_word mark read complete id fun _ _ => rfl
  case h_4 mark =>
    split at read
    · cases read
      cases complete
    · next spelled =>
      cases read
      obtain ⟨doc, rfl, -, reads⟩ := hasText spelled
      have quote : ∀ more, skipBlanks (.char '"' :: more) = .char '"' :: more := fun _ => rfl
      exact Spells.of_mark _ mark (fun fuel rest _ _ => by simp only [readValue, quote, reads])
        False.elim
  case h_5 mark => exact splits_list items mark read complete
  case h_6 mark => exact splits_object members mark read complete
  case h_7 mark =>
    obtain ⟨l, c, cs, rfl, -, rfl, reads⟩ := splits_number read complete
    refine Spells.of_mark (.char c :: cs.map Glyph.char) mark (fun fuel rest _ stops => ?_) False.elim
    show numberOrBroken (readNumber true (.char c :: (cs.map Glyph.char ++ rest))) = _
    rw [reads rest (stops l rfl)]
    rfl
  case h_8 =>
    obtain ⟨l, c, cs, rfl, digit, mark, reads⟩ := splits_number read complete
    refine Spells.of_mark _ mark (fun fuel rest _ stops => ?_) False.elim
    rw [readValue_digit fuel digit, reads rest (stops l rfl)]
    rfl

/-- The last item of a list. -/
theorem SpellsItems.last {blanks : List Glyph} (blank : Blank blanks) (item : Spells doc r)
    (complete : r.isComplete = true) : SpellsItems (doc ++ (blanks ++ [.char ']'])) [r] where
  reads fuel rest enough := by
    obtain _ | fuel := fuel
    · simp at enough
    · simp at enough
      have bracket := skipBlanks_mark blank (.char ']') fun _ => rfl
      have stops : Stops (blanks ++ .char ']' :: rest) := stops_append blank (by simp [Stops, isDigit])
      have reads := item.reads fuel _ (by omega) fun _ _ => stops
      simp only [List.append_assoc, List.cons_append, List.nil_append, readItems, reads, complete,
        if_true, bracket]
  ends := ((endsInChar_singleton ']').behind blanks).behind doc

/-- One more item in front of others. -/
theorem SpellsItems.more {blanks docs : List Glyph} {items : List Raw} (blank : Blank blanks)
    (item : Spells doc r) (complete : r.isComplete = true) (more : SpellsItems docs items) :
    SpellsItems (doc ++ (blanks ++ .char ',' :: docs)) (r :: items) where
  reads fuel rest enough := by
    obtain _ | fuel := fuel
    · simp at enough
    · simp at enough
      have comma := skipBlanks_mark blank (.char ',') fun _ => rfl
      have stops : Stops (blanks ++ .char ',' :: (docs ++ rest)) :=
        stops_append blank (by simp [Stops, isDigit])
      have reads := item.reads fuel _ (by omega) fun _ _ => stops
      simp only [List.append_assoc, List.cons_append, readItems, reads, complete, if_true, comma,
        more.reads fuel rest (by omega)]
  ends := ((more.ends.behind [.char ',']).behind blanks).behind doc

theorem splitsItems_succ (values : SplitsValues fuel) (items : SplitsItems fuel) :
    SplitsItems (fuel + 1) := by
  intro gs found left read
  rcases item : readValue fuel gs with ⟨r, behind⟩
  simp only [readItems, item] at read
  split at read
  case isFalse => cases read
  case isTrue complete =>
    obtain ⟨doc, rfl, spells⟩ := values item complete
    split at read
    · next rest comma =>
      rcases listed : readItems fuel rest with ⟨more, closed, left'⟩
      rw [listed] at read
      cases read
      obtain ⟨docs, rfl, spellsMore⟩ := items listed
      obtain ⟨blanks, blank, rfl, -⟩ := exists_mark comma
      exact ⟨_, by simp, .more blank spells complete spellsMore⟩
    · next rest closes =>
      cases read
      obtain ⟨blanks, blank, rfl, -⟩ := exists_mark closes
      exact ⟨_, by simp, .last blank spells complete⟩
    · cases read

/-- A name, of which the opening quote has been read, and a value with a colon in front of it. -/
structure SpellsMember (nameDoc blanks doc : List Glyph) (name : Option String) (r : Raw) : Prop where
  named : ∀ rest, readText (some []) (nameDoc ++ rest) = some (name, rest)
  blank : Blank blanks
  value : Spells doc r
  complete : r.isComplete = true

section Members

variable {nameDoc blanks before between docs : List Glyph} {name : Option String}
  {found : List (Option String × Raw)}

/-- The last member of an object. -/
theorem SpellsMembers.last (member : SpellsMember nameDoc blanks doc name r) (blank : Blank before) :
    SpellsMembers (nameDoc ++ (blanks ++ .char ':' :: (doc ++ (before ++ [.char '}'])))) [(name, r)] where
  reads fuel rest enough := by
    obtain _ | fuel := fuel
    · simp at enough
    · simp at enough
      have colon := skipBlanks_mark member.blank (.char ':') fun _ => rfl
      have brace := skipBlanks_mark blank (.char '}') fun _ => rfl
      have stops : Stops (before ++ .char '}' :: rest) :=
        stops_append blank (by simp [Stops, isDigit])
      have reads := member.value.reads fuel _ (by omega) fun _ _ => stops
      simp only [List.append_assoc, List.cons_append, List.nil_append, readMembers, member.named, colon,
        reads, member.complete, if_true, brace]
  ends := by
    have behind := ((endsInChar_singleton '}').behind before).behind doc
    exact ((behind.behind [.char ':']).behind blanks).behind nameDoc

/-- One more member in front of others. -/
theorem SpellsMembers.more (member : SpellsMember nameDoc blanks doc name r) (blank : Blank before)
    (blank' : Blank between) (more : SpellsMembers docs found) :
    SpellsMembers (nameDoc ++ (blanks ++ .char ':' :: (doc ++ (before ++ .char ',' ::
      (between ++ .char '"' :: docs))))) ((name, r) :: found) where
  reads fuel rest enough := by
    obtain _ | fuel := fuel
    · simp at enough
    · simp at enough
      have colon := skipBlanks_mark member.blank (.char ':') fun _ => rfl
      have comma := skipBlanks_mark blank (.char ',') fun _ => rfl
      have quote := skipBlanks_mark blank' (.char '"') fun _ => rfl
      have stops : Stops (before ++ .char ',' :: (between ++ .char '"' :: (docs ++ rest))) :=
        stops_append blank (by simp [Stops, isDigit])
      have reads := member.value.reads fuel _ (by omega) fun _ _ => stops
      simp only [List.append_assoc, List.cons_append, readMembers, member.named, colon, reads,
        member.complete, if_true, comma, quote, more.reads fuel rest (by omega)]
  ends := by
    have behind := ((more.ends.behind [.char '"']).behind between).behind [.char ',']
    exact (((behind.behind before).behind doc).behind [.char ':']).behind blanks |>.behind nameDoc

end Members

theorem splitsMembers_succ (values : SplitsValues fuel) (members : SplitsMembers fuel) :
    SplitsMembers (fuel + 1) := by
  intro gs found left read
  simp only [readMembers] at read
  split at read
  · cases read
  · next name behind named =>
    obtain ⟨nameDoc, rfl, -, readsName⟩ := hasText named
    split at read
    · next rest colon =>
      obtain ⟨blanks, blank, rfl, -⟩ := exists_mark colon
      rcases value : readValue fuel rest with ⟨r, behind⟩
      rw [value] at read
      dsimp only at read
      split at read
      case isFalse => cases read
      case isTrue complete =>
        obtain ⟨doc, rfl, spells⟩ := values value complete
        have member : SpellsMember nameDoc blanks doc name r := ⟨readsName, blank, spells, complete⟩
        split at read
        · next rest comma =>
          split at read
          · next names opens =>
            rcases listed : readMembers fuel names with ⟨more, closed, left'⟩
            rw [listed] at read
            cases read
            obtain ⟨docs, rfl, spellsMore⟩ := members listed
            obtain ⟨before, blank', rfl, -⟩ := exists_mark comma
            obtain ⟨between, blank'', rfl, -⟩ := exists_mark opens
            exact ⟨_, by simp, .more member blank' blank'' spellsMore⟩
          · cases read
        · next rest closes =>
          cases read
          obtain ⟨before, blank', rfl, -⟩ := exists_mark closes
          exact ⟨_, by simp, .last member blank'⟩
        · cases read
    · cases read

/-- At every depth, what is read as complete is spelled by the glyphs that were read. -/
theorem splits (fuel : Nat) : SplitsValues fuel ∧ SplitsItems fuel ∧ SplitsMembers fuel := by
  induction fuel with
  | zero =>
    refine ⟨?_, ?_, ?_⟩
    · rintro gs r left ⟨⟩ ⟨⟩
    · rintro gs items left ⟨⟩
    · rintro gs members left ⟨⟩
  | succ fuel ih =>
    obtain ⟨values, items, members⟩ := ih
    exact ⟨splitsValues_succ items members, splitsItems_succ values items,
      splitsMembers_succ values members⟩

/-! ## What stands in front -/

theorem IsClosed.isComplete (closed : r.IsClosed) : r.isComplete = true := by
  cases r <;> first | exact closed | exact closed.elim

/-- A list or an object in front of a text is spelled by glyphs that end in a character, and it is read from
them whatever follows. -/
theorem exists_document (closed : (read gs).1.IsClosed) :
    ∃ doc, gs = doc ++ (read gs).2 ∧ EndsInChar doc ∧
      ∀ rest, read (doc ++ rest) = ((read gs).1, rest) := by
  obtain ⟨doc, split, spells⟩ := (splits _).1 rfl closed.isComplete
  refine ⟨doc, split, spells.ends closed, fun rest => spells.reads _ rest ?_ ?_⟩
  · rw [List.length_append]
    omega
  · intro l number
    rw [read, number] at closed
    exact closed.elim

/-- Where nothing is left but blanks, there is nothing but blanks. -/
theorem blank_of_skipBlanks (nothing : skipBlanks gs = []) : Blank gs := by
  obtain ⟨blanks, blank, split, -⟩ := exists_blanks gs
  rw [nothing, List.append_nil] at split
  rwa [split]

/-- Blanks are characters. -/
theorem EndsInChar.append_blank (ends : EndsInChar doc) {blanks : List Glyph} (blank : Blank blanks) :
    EndsInChar (doc ++ blanks) := by
  rcases List.eq_nil_or_concat blanks with rfl | ⟨front, last, rfl⟩
  · rwa [List.append_nil]
  · refine EndsInChar.behind ?_ doc
    rw [List.concat_eq_append]
    refine EndsInChar.behind ?_ front
    obtain rfl | rfl | rfl | rfl := blank last (by simp) <;> exact endsInChar_singleton _

end RealmSetup.Json.Raw
