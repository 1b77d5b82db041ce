import Mathlib.Algebra.Group.Int.Defs
import RealmSetup.Proofs.Json.Reading
import RealmSetup.Proofs.Json.Values
import RealmSetup.Proofs.Text.Encoding

/-!
# Printed values are read as they were

A value that holds no floats and whose objects list their members in order (`Plain`) is read back from its
printed text, whatever follows the text (`exists_reading`).  The induction is on the value; of the text
that follows a number only this matters, that it does not go on with the number (`Stops`).  Hence what is
printed shows the value it was printed from (`shows_render`).
-/

namespace RealmSetup.Json

/-- A value as readers keep it: its numbers are integers that a word of 64 bits holds, with a sign or
without, and its objects name each member once, in order. -/
inductive Plain : Json → Prop
  | null : Plain .null
  | bool (b : Bool) : Plain (.bool b)
  | int {i : Int} (low : -2 ^ 63 ≤ i) (high : i < 2 ^ 64) : Plain (.int i)
  | text (s : String) : Plain (.text s)
  | array {items : List Json} (h : ∀ j ∈ items, Plain j) : Plain (.array items)
  | object {ms : List (String × Json)} (ascend : KeysAscend ms) (h : ∀ e ∈ ms, Plain e.2) :
    Plain (.object ms)

namespace Raw

/-! ## Numbers -/

/-- A text does not go on with a number that stands before it. -/
def Stops : List Glyph → Prop
  | .char c :: _ => isDigit c = false ∧ c ≠ '.' ∧ c ≠ 'e' ∧ c ≠ 'E'
  | _ => True

theorem takeDigits_of_other {ds : List Char} {rest : List Glyph}
    (digits : ∀ c ∈ ds, isDigit c = true)
    (other : ∀ c more, rest = .char c :: more → isDigit c = false) :
    takeDigits (ds.map Glyph.char ++ rest) = (ds, rest) := by
  induction ds with
  | nil =>
    cases rest with
    | nil => rfl
    | cons g rest =>
      cases g with
      | damaged => rfl
      | char c => simp [takeDigits, other c rest rfl]
  | cons d ds ih =>
    rw [List.map_cons, List.cons_append, takeDigits, if_pos (digits d (by simp)),
      ih fun c hc => digits c (List.mem_cons_of_mem d hc)]

theorem takeDigits_append {ds : List Char} {rest : List Glyph} (digits : ∀ c ∈ ds, isDigit c = true)
    (stops : Stops rest) : takeDigits (ds.map Glyph.char ++ rest) = (ds, rest) := by
  refine takeDigits_of_other digits ?_
  rintro c more rfl
  exact stops.1

theorem readFraction_of_stops {rest : List Glyph} (stops : Stops rest) :
    readFraction rest = some (none, rest) := by
  cases rest with
  | nil => rfl
  | cons g rest =>
    cases g with
    | damaged => rfl
    | char c =>
      unfold readFraction
      split
      · next same =>
        cases same
        exact absurd rfl stops.2.1
      · rfl

theorem readExponent_of_stops {rest : List Glyph} (stops : Stops rest) :
    readExponent rest = some (none, rest) := by
  cases rest with
  | nil => rfl
  | cons g rest =>
    cases g with
    | damaged => rfl
    | char c =>
      unfold readExponent
      split
      · next same =>
        cases same
        exact absurd rfl stops.2.2.1
      · next same =>
        cases same
        exact absurd rfl stops.2.2.2
      · rfl

theorem isDigit_of_mem_natDigits {n : Nat} {c : Char} (h : c ∈ Number.natDigits n) :
    isDigit c = true := by
  have digit := Nat.isDigit_of_mem_toDigits (by decide) (by decide) h
  simpa [isDigit, Char.isDigit, Char.le_def] using digit

theorem digits_natDigits (n : Nat) : Literal.digits (Number.natDigits n) = n := by
  have read : Nat.ofDigitChars 10 (Nat.toDigits 10 n) 0 = n := Nat.ofDigitChars_ten_toDigits
  rw [Nat.ofDigitChars_eq_foldl] at read
  rw [Literal.digits, Number.natDigits]
  simpa [Literal.digit, Nat.mul_comm] using read

/-- Only zero begins with a zero. -/
theorem natDigits_ne_zero_cons (n : Nat) (c : Char) (cs : List Char) :
    Number.natDigits n ≠ '0' :: c :: cs := by
  induction n using Nat.strongRecOn generalizing c cs with
  | ind n ih =>
    intro digits
    rw [Number.natDigits, Nat.toDigits_eq_if (by decide)] at digits
    split at digits
    · simp at digits
    · next large =>
      -- The digits before the last are those of a tenth, which is not zero.
      cases before : Nat.toDigits 10 (n / 10) with
      | nil => exact Nat.toDigits_ne_nil before
      | cons d ds =>
        rw [before] at digits
        obtain ⟨rfl, -⟩ := List.cons.inj digits
        cases ds with
        | cons d ds => exact ih (n / 10) (by omega) d ds before
        | nil =>
          have value := digits_natDigits (n / 10)
          rw [Number.natDigits, before] at value
          have zero : n / 10 = 0 := value.symm
          omega

theorem readNumber_natDigits (negative : Bool) (n : Nat) {rest : List Glyph} (stops : Stops rest) :
    readNumber negative ((Number.natDigits n).map Glyph.char ++ rest) =
      some (⟨negative, Number.natDigits n, none, none⟩, rest) := by
  rw [readNumber, takeDigits_append (fun c => isDigit_of_mem_natDigits) stops]
  split
  · next same =>
    exact absurd (congrArg Prod.fst same) Nat.toDigits_ne_nil
  · next same =>
    exact absurd (congrArg Prod.fst same) (natDigits_ne_zero_cons n _ _)
  · next same =>
    obtain ⟨rfl, rfl⟩ := Prod.mk.inj same
    simp only [readFraction_of_stops stops, readExponent_of_stops stops]

/-- An integer as it is written. -/
def literal (i : Int) : Literal := ⟨i < 0, Number.natDigits i.natAbs, none, none⟩

theorem number?_literal {i : Int} (low : -2 ^ 63 ≤ i) (high : i < 2 ^ 64) :
    (literal i).number? = some (.int i) := by
  have size : UInt64.size = 2 ^ 64 := rfl
  unfold Literal.number?
  simp only [literal, digits_natDigits, Option.isNone_none, Bool.and_self, Bool.true_and, size]
  by_cases negative : i < 0
  · rw [if_neg (by simp [negative]), if_pos (by simp [negative]; omega)]
    exact congrArg (some ∘ Number.int) (by omega)
  · rw [if_pos (by simp [negative]; omega)]
    exact congrArg (some ∘ Number.int) (by omega)

theorem skipBlanks_digit {c : Char} (digit : isDigit c = true) (gs : List Glyph) :
    skipBlanks (.char c :: gs) = .char c :: gs := by
  rw [skipBlanks, if_neg]
  rintro (blank | blank | blank | blank) <;> cases blank <;> exact absurd digit (by decide)

/-- What begins with a digit is read as a number. -/
theorem readValue_digit (fuel : Nat) {c : Char} (digit : isDigit c = true) (gs : List Glyph) :
    readValue (fuel + 1) (.char c :: gs) = numberOrBroken (readNumber false (.char c :: gs)) := by
  rw [readValue, skipBlanks_digit digit]
  split
  case h_8 => rfl
  all_goals
    next same =>
      cases same
      exact absurd digit (by decide)

theorem exists_natDigits_eq_cons (n : Nat) :
    ∃ c cs, Number.natDigits n = c :: cs ∧ isDigit c = true := by
  cases digits : Number.natDigits n with
  | nil => exact absurd digits Nat.toDigits_ne_nil
  | cons c cs => exact ⟨c, cs, rfl, isDigit_of_mem_natDigits (digits ▸ List.mem_cons_self)⟩

/-! ## Values -/

/-- What a value is read as from its printed text, whatever follows. -/
def ReadsAs (j : Json) (r : Raw) : Prop :=
  r.value? = some j ∧ ∀ fuel rest, (compact j).length ≤ fuel → Stops rest →
    readValue fuel ((compact j).map Glyph.char ++ rest) = (r, rest)

/-- A value begins with a character that is no blank and closes nothing. -/
theorem exists_compact_eq_cons {j : Json} (plain : Plain j) :
    ∃ c cs, compact j = c :: cs ∧ c ≠ ']' ∧ ∀ gs, skipBlanks (.char c :: gs) = .char c :: gs := by
  cases plain with
  | null => exact ⟨_, _, rfl, by decide, fun _ => rfl⟩
  | bool b => cases b <;> exact ⟨_, _, rfl, by decide, fun _ => rfl⟩
  | text s => exact ⟨_, _, rfl, by decide, fun _ => rfl⟩
  | array h =>
    rename_i items
    cases items <;> exact ⟨_, _, rfl, by decide, fun _ => rfl⟩
  | object ascend h =>
    rename_i ms
    cases ms <;> exact ⟨_, _, rfl, by decide, fun _ => rfl⟩
  | int low high =>
    rename_i i
    cases i with
    | ofNat n =>
      obtain ⟨c, cs, digits, digit⟩ := exists_natDigits_eq_cons n
      refine ⟨c, cs, digits, ?_, skipBlanks_digit digit⟩
      rintro rfl
      exact absurd digit (by decide)
    | negSucc n => exact ⟨_, _, rfl, by decide, fun _ => rfl⟩

theorem readsAs_int {i : Int} (low : -2 ^ 63 ≤ i) (high : i < 2 ^ 64) :
    ReadsAs (.int i) (.number (literal i)) := by
  refine ⟨by rw [value?, number?_literal low high]; rfl, fun fuel rest enough stops => ?_⟩
  obtain ⟨c, cs, written, -⟩ := exists_compact_eq_cons (.int low high)
  cases fuel with
  | zero => rw [written] at enough; cases enough
  | succ fuel =>
    cases i with
    | ofNat n =>
      obtain ⟨c, cs, digits, digit⟩ := exists_natDigits_eq_cons n
      have read := readNumber_natDigits false n stops
      show readValue (fuel + 1) ((Number.natDigits n).map Glyph.char ++ rest) = _
      rw [digits] at read ⊢
      rw [List.map_cons, List.cons_append] at read ⊢
      rw [readValue_digit fuel digit, read, ← digits]
      rfl
    | negSucc n =>
      show numberOrBroken (readNumber true ((Number.natDigits (n + 1)).map Glyph.char ++ rest)) = _
      rw [readNumber_natDigits true (n + 1) stops]
      simp [numberOrBroken, literal, Int.negSucc_lt_zero]

/-- A list is read item by item. -/
theorem exists_readItems {j : Json} {items : List Json} (h : ∀ i ∈ j :: items, ∃ r, ReadsAs i r) :
    ∃ rs, values? rs = some (j :: items) ∧ ∀ fuel rest,
      (compact j ++ compactItems items).length ≤ fuel →
      readItems fuel ((compact j ++ compactItems items).map Glyph.char ++ rest) = (rs, true, rest) := by
  induction items generalizing j with
  | nil =>
    obtain ⟨r, value, read⟩ := h j (by simp)
    refine ⟨[r], values?_cons.2 ⟨j, [], value, rfl, rfl⟩, fun fuel rest enough => ?_⟩
    cases fuel with
    | zero => simp [compactItems] at enough
    | succ fuel =>
      simp only [compactItems, List.length_append, List.length_singleton] at enough
      rw [compactItems, List.map_append, List.append_assoc, readItems,
        read fuel _ (by omega) (by simp [Stops, isDigit])]
      simp only [isComplete_of_value? value, if_true]
      rfl
  | cons k items ih =>
    obtain ⟨r, value, read⟩ := h j (by simp)
    obtain ⟨rs, values, more⟩ := ih fun i hi => h i (List.mem_cons_of_mem j hi)
    refine ⟨r :: rs, values?_cons.2 ⟨j, k :: items, value, values, rfl⟩, fun fuel rest enough => ?_⟩
    cases fuel with
    | zero => simp [compactItems] at enough
    | succ fuel =>
      simp only [compactItems, List.length_append, List.length_cons] at enough
      rw [compactItems, List.map_append, List.append_assoc, readItems,
        read fuel _ (by omega) (by simp [Stops, isDigit])]
      have comma : skipBlanks ((',' :: compact k ++ compactItems items).map Glyph.char ++ rest) =
          .char ',' :: ((compact k ++ compactItems items).map Glyph.char ++ rest) := rfl
      simp only [isComplete_of_value? value, if_true, comma]
      rw [more fuel rest (by simp only [List.length_append]; omega)]

theorem readValue_array (fuel : Nat) {gs items : List Glyph} (opens : skipBlanks gs = items)
    (other : ∀ rest, items ≠ .char ']' :: rest) :
    readValue (fuel + 1) (.char '[' :: gs) =
      (.array (readItems fuel items).1 (readItems fuel items).2.1, (readItems fuel items).2.2) := by
  have bracket : skipBlanks (.char '[' :: gs) = .char '[' :: gs := rfl
  rw [readValue, bracket]
  simp only [opens]

theorem exists_readsAs_array {items : List Json} (plain : ∀ j ∈ items, Plain j)
    (h : ∀ j ∈ items, ∃ r, ReadsAs j r) : ∃ r, ReadsAs (.array items) r := by
  cases items with
  | nil =>
    refine ⟨.array [] true, rfl, fun fuel rest enough _ => ?_⟩
    cases fuel with
    | zero => cases enough
    | succ fuel => rfl
  | cons j items =>
    obtain ⟨rs, values, read⟩ := exists_readItems h
    refine ⟨.array rs true, value?_array.2 ⟨rfl, _, values, rfl⟩, fun fuel rest enough _ => ?_⟩
    cases fuel with
    | zero => simp [compact] at enough
    | succ fuel =>
      obtain ⟨c, cs, written, other, opens⟩ := exists_compact_eq_cons (plain j (by simp))
      have item := read fuel rest (by simpa [compact] using enough)
      rw [compact, List.cons_append, List.map_cons, List.cons_append, readValue_array fuel, item]
      · rw [written]
        exact opens _
      · rw [written]
        rintro _ ⟨⟩
        exact other rfl

/-- A member of an object, behind the quote that opens its name. -/
def memberText (e : String × Json) : List Char := unquoted e.1 ++ ':' :: compact e.2

/-- What is left where the value of a member was read. -/
theorem exists_read_memberText {e : String × Json} {r : Raw} (reads : ReadsAs e.2 r) {fuel : Nat}
    (gs : List Glyph) (enough : (compact e.2).length ≤ fuel) (stops : Stops gs) :
    ∃ colon value, readText (some []) ((memberText e).map Glyph.char ++ gs) = some (some e.1, colon) ∧
      skipBlanks colon = .char ':' :: value ∧ readValue fuel value = (r, gs) := by
  refine ⟨(':' :: compact e.2).map Glyph.char ++ gs, (compact e.2).map Glyph.char ++ gs, ?_, rfl,
    reads.2 fuel gs enough stops⟩
  rw [memberText, List.map_append, List.append_assoc, readText_quote]

/-- An object is read member by member, from behind the quote that opens the first name. -/
theorem exists_readMembers {e : String × Json} {ms : List (String × Json)}
    (h : ∀ m ∈ e :: ms, ∃ r, ReadsAs m.2 r) :
    ∃ rs, memberValues? rs = some (e :: ms) ∧ ∀ fuel rest,
      (memberText e ++ compactMembers ms).length ≤ fuel →
      readMembers fuel ((memberText e ++ compactMembers ms).map Glyph.char ++ rest) =
        (rs, true, rest) := by
  induction ms generalizing e with
  | nil =>
    obtain ⟨r, reads⟩ := h e (by simp)
    refine ⟨[(some e.1, r)], memberValues?_cons.2 ⟨e.1, e.2, [], rfl, reads.1, rfl, rfl⟩,
      fun fuel rest enough => ?_⟩
    cases fuel with
    | zero => simp [compactMembers] at enough
    | succ fuel =>
      simp only [compactMembers, memberText, List.length_append, List.length_cons] at enough
      obtain ⟨colon, value, named, marked, read⟩ := exists_read_memberText reads
        (.char '}' :: rest) (show (compact e.2).length ≤ fuel by omega) (by simp [Stops, isDigit])
      rw [compactMembers, List.map_append, List.append_assoc, readMembers]
      simp only [List.map_cons, List.map_nil, List.cons_append, List.nil_append, named, marked, read,
        isComplete_of_value? reads.1, if_true]
      rfl
  | cons k ms ih =>
    obtain ⟨r, reads⟩ := h e (by simp)
    obtain ⟨rs, values, more⟩ := ih fun m hm => h m (List.mem_cons_of_mem e hm)
    refine ⟨(some e.1, r) :: rs, memberValues?_cons.2 ⟨e.1, e.2, k :: ms, rfl, reads.1, values, rfl⟩,
      fun fuel rest enough => ?_⟩
    cases fuel with
    | zero => simp [compactMembers] at enough
    | succ fuel =>
      have written : compactMembers (k :: ms) = ',' :: '"' :: (memberText k ++ compactMembers ms) := by
        rw [compactMembers, quote_eq_cons, memberText]
        rfl
      rw [written] at enough ⊢
      simp only [memberText, List.length_append, List.length_cons] at enough
      obtain ⟨colon, value, named, marked, read⟩ := exists_read_memberText reads
        ((',' :: '"' :: (memberText k ++ compactMembers ms)).map Glyph.char ++ rest)
        (show (compact e.2).length ≤ fuel by omega) (by simp [Stops, isDigit])
      have comma : skipBlanks ((',' :: '"' :: (memberText k ++ compactMembers ms)).map Glyph.char ++ rest) =
          .char ',' :: (('"' :: (memberText k ++ compactMembers ms)).map Glyph.char ++ rest) := rfl
      have next : skipBlanks (('"' :: (memberText k ++ compactMembers ms)).map Glyph.char ++ rest) =
          .char '"' :: ((memberText k ++ compactMembers ms).map Glyph.char ++ rest) := rfl
      rw [List.map_append, List.append_assoc, readMembers, named]
      simp only [marked, read, isComplete_of_value? reads.1, if_true, comma, next]
      rw [more fuel rest (by simp only [memberText, List.length_append, List.length_cons]; omega)]

theorem exists_readsAs_object {ms : List (String × Json)} (ascend : KeysAscend ms)
    (h : ∀ m ∈ ms, ∃ r, ReadsAs m.2 r) : ∃ r, ReadsAs (.object ms) r := by
  have same : Json.members ms = .object ms :=
    congrArg ofMap (KeyMap.ofList_entries ⟨ms, ascend⟩)
  have shown {rs : List (Option String × Raw)} (values : memberValues? rs = some ms) :
      (Raw.object rs true).value? = some (.object ms) :=
    value?_object.2 ⟨rfl, ms, values, KeyMap.keys_nodup ⟨ms, ascend⟩, same.symm⟩
  cases ms with
  | nil =>
    refine ⟨.object [] true, rfl, fun fuel rest enough _ => ?_⟩
    cases fuel with
    | zero => cases enough
    | succ fuel => rfl
  | cons e ms =>
    obtain ⟨rs, values, read⟩ := exists_readMembers h
    refine ⟨.object rs true, shown values, fun fuel rest enough _ => ?_⟩
    have written : compact (.object (e :: ms)) = '{' :: '"' :: (memberText e ++ compactMembers ms) := by
      rw [compact, quote_eq_cons, memberText]
      rfl
    rw [written] at enough ⊢
    cases fuel with
    | zero => cases enough
    | succ fuel =>
      have quoted : skipBlanks (('"' :: (memberText e ++ compactMembers ms)).map Glyph.char ++ rest) =
          .char '"' :: ((memberText e ++ compactMembers ms).map Glyph.char ++ rest) := rfl
      have brace (gs : List Glyph) : skipBlanks (.char '{' :: gs) = .char '{' :: gs := rfl
      rw [List.map_cons, List.cons_append, readValue, brace]
      simp only [quoted]
      rw [read fuel rest (by simp only [List.length_cons] at enough; omega)]

/-- A plain value is read back from its text. -/
theorem exists_readsAs {j : Json} (plain : Plain j) : ∃ r, ReadsAs j r := by
  induction plain with
  | null =>
    refine ⟨.null, rfl, fun fuel rest enough _ => ?_⟩
    cases fuel with
    | zero => cases enough
    | succ fuel => rfl
  | bool b =>
    refine ⟨.bool b, rfl, fun fuel rest enough _ => ?_⟩
    cases fuel with
    | zero => cases b <;> cases enough
    | succ fuel => cases b <;> rfl
  | int low high => exact ⟨_, readsAs_int low high⟩
  | text s =>
    refine ⟨.text (some s), rfl, fun fuel rest enough _ => ?_⟩
    cases fuel with
    | zero => cases enough
    | succ fuel => exact readValue_quote fuel s rest
  | array plain ih => exact exists_readsAs_array plain ih
  | object ascend _ ih => exact exists_readsAs_object ascend ih

end Raw

/-! ## Texts -/

/-- Reading a text gives a value. -/
def Shows (bytes : List UInt8) (j : Json) : Prop :=
  (Raw.read (Utf8.glyphs bytes)).1.value? = some j

/-- A plain value is all that is in its printed text. -/
theorem read_render {j : Json} (plain : Plain j) :
    ∃ r, r.value? = some j ∧ Raw.read (Utf8.glyphs (Utf8.encode j.render)) = (r, []) := by
  obtain ⟨r, value, read⟩ := Raw.exists_readsAs plain
  have glyphs : Utf8.glyphs (Utf8.encode j.render) = (compact j).map Glyph.char := by
    rw [Utf8.glyphs_encode, glyphsOf, render, String.toList_ofList]
  refine ⟨r, value, ?_⟩
  have whole := read (2 * (compact j).length + 2) [] (by omega) trivial
  rw [List.append_nil] at whole
  rw [glyphs, Raw.read, List.length_map, whole]

theorem shows_render {j : Json} (plain : Plain j) : Shows (Utf8.encode j.render) j := by
  obtain ⟨r, value, read⟩ := read_render plain
  rw [Shows, read, value]

end RealmSetup.Json
