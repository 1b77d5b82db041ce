import Mathlib.Data.List.TakeWhile
import RealmSetup.Mail.Code

/-!
# The first code of a text

A *whole word* of a text is a row of word characters with no word character beside it; it is empty where
two other characters meet, or one meets an end of the text.  Whole words are told by their place in the
text alone (`WholeWord`).  Every text is a row of word characters, or such a row with another character
and a text behind it; in the latter case its whole words are that row and those of the text behind
(`wholeWord_append`), which is an induction on texts (`words_induction`).

The words that a text is divided into are thus its whole words from the left, and the code that is found
is the whole word that is a code and has the least in front of it (`find?_leftmost`).
-/

namespace RealmSetup.Code

variable {cs run rest before word after : List Char} {sep : Char}

/-! ## Whole words -/

/-- A row of word characters with no word character beside it. -/
structure WholeWord (cs before word after : List Char) : Prop where
  split : cs = before ++ word ++ after
  /-- What stands in front ends in another character, if anything stands there. -/
  opens : ∀ c ∈ before.getLast?, isWordChar c = false
  /-- What follows begins with another character, if anything follows. -/
  closes : ∀ c ∈ after.head?, isWordChar c = false
  chars : ∀ c ∈ word, isWordChar c = true

/-- A row of word characters is all that stands in front of the first other character. -/
theorem takeWhile_append (chars : ∀ c ∈ word, isWordChar c = true)
    (closes : ∀ c ∈ after.head?, isWordChar c = false) :
    (word ++ after).takeWhile isWordChar = word := by
  rw [List.takeWhile_append_of_pos chars]
  cases after with
  | nil => simp
  | cons c after => simp [closes c rfl]

/-- A word with nothing in front of it is the row of word characters with which the text begins. -/
theorem WholeWord.eq_of_nil {tail : List Char} (h : WholeWord (run ++ tail) [] word after)
    (chars : ∀ c ∈ run, isWordChar c = true) (closes : ∀ c ∈ tail.head?, isWordChar c = false) :
    word = run ∧ after = tail := by
  have same : run ++ tail = word ++ after := h.split
  have first : word = run := by
    rw [← takeWhile_append h.chars h.closes, ← same, takeWhile_append chars closes]
  subst first
  exact ⟨rfl, (List.append_cancel_left same).symm⟩

/-- Nothing stands in front of a whole word if that were word characters only. -/
theorem WholeWord.before_eq_nil (h : WholeWord cs before word after)
    (chars : ∀ c ∈ before, isWordChar c = true) : before = [] := by
  refine List.getLast?_eq_none_iff.1 (Option.eq_none_iff_forall_not_mem.2 fun c last => ?_)
  have other := h.opens c last
  rw [chars c (List.mem_of_getLast? last)] at other
  cases other

/-- A row of word characters holds no word but itself. -/
theorem wholeWord_run (chars : ∀ c ∈ run, isWordChar c = true) :
    WholeWord run before word after ↔ before = [] ∧ word = run ∧ after = [] := by
  constructor
  · intro h
    obtain rfl := h.before_eq_nil fun c mem => chars c (by simp [h.split, mem])
    rw [← List.append_nil run] at h
    exact ⟨rfl, h.eq_of_nil chars (by simp)⟩
  · rintro ⟨rfl, rfl, rfl⟩
    exact ⟨by simp, by simp, by simp, chars⟩

/-- The whole words of a text are the row of word characters it begins with and those of the text behind
the next character. -/
theorem wholeWord_append (chars : ∀ c ∈ run, isWordChar c = true) (other : isWordChar sep = false) :
    WholeWord (run ++ sep :: rest) before word after ↔
      before = [] ∧ word = run ∧ after = sep :: rest ∨
      ∃ before', before = run ++ sep :: before' ∧ WholeWord rest before' word after := by
  constructor
  · intro h
    -- Either what stands in front goes on beyond the other character, or it ends before it.
    by_cases beyond : run ++ [sep] <+: before
    · obtain ⟨before', rfl⟩ := beyond
      refine .inr ⟨before', by simp, by simpa using h.split, fun c last => ?_, h.closes, h.chars⟩
      exact h.opens c (by rw [List.getLast?_append, Option.mem_def.1 last]; rfl)
    · have within : before <+: run := by
        have both : before <+: run ++ [sep] ++ rest := ⟨word ++ after, by simp [h.split]⟩
        obtain shorter | longer := List.prefix_or_prefix_of_prefix both (List.prefix_append _ _)
        · rcases List.prefix_concat_iff.1 shorter with rfl | within
          · exact absurd (List.prefix_refl _) beyond
          · exact within
        · exact absurd longer beyond
      obtain rfl := h.before_eq_nil fun c mem => chars c (within.subset mem)
      exact .inl ⟨rfl, h.eq_of_nil chars (by simpa using other)⟩
  · rintro (⟨rfl, rfl, rfl⟩ | ⟨before', rfl, h⟩)
    · exact ⟨by simp, by simp, by simpa using other, chars⟩
    · refine ⟨by simp [h.split], fun c last => ?_, h.closes, h.chars⟩
      cases before' with
      | nil =>
        obtain rfl : sep = c := by simpa using last
        exact other
      | cons b before' => exact h.opens c (by simpa using last)

/-! ## Words one after the other -/

/-- A text is a row of word characters, or such a row with another character and a text behind it. -/
@[elab_as_elim]
theorem words_induction {motive : List Char → Prop}
    (last : ∀ run, (∀ c ∈ run, isWordChar c = true) → motive run)
    (more : ∀ run sep rest, (∀ c ∈ run, isWordChar c = true) → isWordChar sep = false →
      motive rest → motive (run ++ sep :: rest)) (cs : List Char) : motive cs := by
  -- By induction on what is left, behind any row of word characters.
  have along : ∀ run, (∀ c ∈ run, isWordChar c = true) → motive (run ++ cs) := by
    induction cs with
    | nil => simpa using last
    | cons c cs ih =>
      intro run chars
      by_cases goes : isWordChar c = true
      · rw [List.append_cons]
        exact ih (run ++ [c]) (by simpa [or_imp, forall_and] using ⟨chars, goes⟩)
      · exact more run c cs chars (by simpa using goes) (ih [] (by simp))
  exact along [] (by simp)

theorem words_run (chars : ∀ c ∈ run, isWordChar c = true) : words run = [run] :=
  List.splitOnP_eq_singleton fun c mem => by simp [chars c mem]

theorem words_append (chars : ∀ c ∈ run, isWordChar c = true) (other : isWordChar sep = false) :
    words (run ++ sep :: rest) = run :: words rest :=
  List.splitOnP_append_cons_of_forall_mem (fun c mem => by simp [chars c mem]) sep (by simp [other])
    rest

/-- A text is divided into its whole words. -/
theorem mem_words_iff : word ∈ words cs ↔ ∃ before after, WholeWord cs before word after := by
  induction cs using words_induction with
  | last run chars => simp [words_run chars, wholeWord_run chars]
  | more run sep rest chars other ih =>
    rw [words_append chars other, List.mem_cons, ih]
    simp only [wholeWord_append chars other]
    constructor
    · rintro (rfl | ⟨before, after, h⟩)
      · exact ⟨[], sep :: rest, .inl ⟨rfl, rfl, rfl⟩⟩
      · exact ⟨_, after, .inr ⟨before, rfl, h⟩⟩
    · rintro ⟨before, after, ⟨-, rfl, -⟩ | ⟨before', -, h⟩⟩
      · exact .inl rfl
      · exact .inr ⟨before', after, h⟩

/-! ## Codes -/

variable {alphabet : String} {lengths : Nat × Nat}

/-- A whole word that is a code: its characters are of the alphabet and its length lies in the range. -/
structure CodeAt (alphabet : String) (lengths : Nat × Nat) (cs before word after : List Char) : Prop
    extends WholeWord cs before word after where
  known : ∀ c ∈ word, c ∈ alphabet.toList
  least : lengths.1 ≤ word.length
  most : word.length ≤ lengths.2

/-- A code with the least in front of it. -/
def FirstCodeAt (alphabet : String) (lengths : Nat × Nat) (cs before word after : List Char) : Prop :=
  CodeAt alphabet lengths cs before word after ∧
    ∀ before' word' after', CodeAt alphabet lengths cs before' word' after' →
      before.length ≤ before'.length

theorem isCode_iff : isCode alphabet lengths word = true ↔
    (∀ c ∈ word, c ∈ alphabet.toList) ∧ lengths.1 ≤ word.length ∧ word.length ≤ lengths.2 := by
  simp [isCode, and_comm, and_assoc]

theorem codeAt_iff : CodeAt alphabet lengths cs before word after ↔
    WholeWord cs before word after ∧ isCode alphabet lengths word = true := by
  rw [isCode_iff]
  constructor
  · exact fun h => ⟨h.toWholeWord, h.known, h.least, h.most⟩
  · exact fun ⟨h, known, least, most⟩ => ⟨h, known, least, most⟩

/-- The first code of a text is the row of word characters it begins with, if that is a code, and else the
first one of the text behind the next character. -/
theorem firstCodeAt_append (chars : ∀ c ∈ run, isWordChar c = true)
    (other : isWordChar sep = false) :
    FirstCodeAt alphabet lengths (run ++ sep :: rest) before word after ↔
      if isCode alphabet lengths run then before = [] ∧ word = run ∧ after = sep :: rest
      else ∃ before', before = run ++ sep :: before' ∧
        FirstCodeAt alphabet lengths rest before' word after := by
  simp only [FirstCodeAt, codeAt_iff, wholeWord_append chars other]
  split
  · next code =>
    constructor
    · rintro ⟨⟨here | ⟨before', rfl, -⟩, -⟩, least⟩
      · exact here
      · have first := least [] run (sep :: rest) ⟨.inl ⟨rfl, rfl, rfl⟩, code⟩
        simp at first
    · rintro ⟨rfl, rfl, rfl⟩
      exact ⟨⟨.inl ⟨rfl, rfl, rfl⟩, code⟩, fun _ _ _ _ => Nat.zero_le _⟩
  · next none =>
    constructor
    · rintro ⟨⟨⟨-, rfl, -⟩ | ⟨before', rfl, whole⟩, code⟩, least⟩
      · exact absurd code none
      · refine ⟨before', rfl, ⟨whole, code⟩, fun before'' word' after' ⟨whole', code'⟩ => ?_⟩
        have first := least _ word' after' ⟨.inr ⟨before'', rfl, whole'⟩, code'⟩
        simpa using first
    · rintro ⟨before', rfl, ⟨whole, code⟩, least⟩
      refine ⟨⟨.inr ⟨before', rfl, whole⟩, code⟩, ?_⟩
      rintro _ word' after' ⟨⟨-, rfl, -⟩ | ⟨before'', rfl, whole'⟩, code'⟩
      · exact absurd code' none
      · simpa using least before'' word' after' ⟨whole', code'⟩

theorem find?_words_eq_some_iff : (words cs).find? (isCode alphabet lengths) = some word ↔
    ∃ before after, FirstCodeAt alphabet lengths cs before word after := by
  induction cs using words_induction with
  | last run chars =>
    simp only [words_run chars, FirstCodeAt, codeAt_iff, wholeWord_run chars]
    constructor
    · intro found
      obtain ⟨code, rfl⟩ : isCode alphabet lengths run = true ∧ run = word := by
        simpa [List.find?_singleton] using found
      exact ⟨[], [], ⟨⟨rfl, rfl, rfl⟩, code⟩, fun _ _ _ _ => Nat.zero_le _⟩
    · rintro ⟨before, after, ⟨⟨-, rfl, -⟩, code⟩, -⟩
      simp [code]
  | more run sep rest chars other ih =>
    simp only [words_append chars other, List.find?_cons, firstCodeAt_append chars other]
    split
    · next code => simp [code, eq_comm]
    · next none =>
      rw [ih]
      simp only [none, Bool.false_eq_true, if_false]
      constructor
      · exact fun ⟨before, after, first⟩ => ⟨_, after, before, rfl, first⟩
      · exact fun ⟨_, after, before, _, first⟩ => ⟨before, after, first⟩

theorem find?_words_eq_none_iff : (words cs).find? (isCode alphabet lengths) = none ↔
    ∀ before word after, ¬CodeAt alphabet lengths cs before word after := by
  simp only [List.find?_eq_none, mem_words_iff, codeAt_iff]
  constructor
  · exact fun h before word after ⟨whole, code⟩ => h word ⟨before, after, whole⟩ code
  · exact fun h word ⟨before, after, whole⟩ code => h before word after ⟨whole, code⟩

/-- The code that is found is the whole word with the least in front of it that consists of characters of
the alphabet and has a length in the range; none is found exactly if there is no such word. -/
theorem find?_leftmost (body alphabet : String) (lengths : Nat × Nat) :
    (∀ code, find? body alphabet lengths = some code ↔
        ∃ before after, FirstCodeAt alphabet lengths body.toList before code.toList after) ∧
      (find? body alphabet lengths = none ↔
        ∀ before word after, ¬CodeAt alphabet lengths body.toList before word after) := by
  refine ⟨fun code => ?_, ?_⟩
  · rw [← find?_words_eq_some_iff, find?, Option.map_eq_some_iff]
    constructor
    · rintro ⟨word, found, rfl⟩
      rwa [String.toList_ofList]
    · exact fun found => ⟨code.toList, found, String.ofList_toList⟩
  · rw [← find?_words_eq_none_iff, find?, Option.map_eq_none_iff]

end RealmSetup.Code
