import RealmSetup.Text.Utf8

/-!
# Texts survive being written as bytes

A text that is written as UTF-8 is read back as it was (`glyphs_encode`), every one of its characters and
nothing damaged.  The bytes of one character are read at a time (`glyphsFrom_encodeChar`): the first says
how many follow and within which bounds the second lies, and these bounds leave out exactly what is no
character or could be written with fewer bytes.

Bytes that are no text at all show characters and damaged places, and they can be divided behind every
character they show (`exists_split_glyphsFrom`): a character is shown only when its last byte has come, so
nothing is begun there, and what follows shows as it would alone (`glyphs_append`).
-/

namespace RealmSetup

namespace Utf8

variable {b : UInt8} {rest : List UInt8} {v : Nat}

/-! ## One byte at a time -/

theorem glyphsFrom_whole {g : Glyph} (h : start b = .inl g) :
    glyphsFrom none (b :: rest) = g :: glyphsFrom none rest := by
  rw [glyphsFrom, h]

theorem glyphsFrom_first {begun : Begun} (h : start b = .inr begun) :
    glyphsFrom none (b :: rest) = glyphsFrom (some begun) rest := by
  rw [glyphsFrom, h]

theorem glyphsFrom_next {more : Nat} {low high : UInt8} {bits : Nat} (hlow : low ≤ b) (hhigh : b ≤ high) :
    glyphsFrom (some ⟨more + 1, low, high, bits⟩) (b :: rest) =
      glyphsFrom (some ⟨more, 0x80, 0xBF, bits * 64 + (b.toNat - 0x80)⟩) rest := by
  rw [glyphsFrom, if_pos ⟨hlow, hhigh⟩]

theorem glyphsFrom_last {low high : UInt8} {bits : Nat} (hlow : low ≤ b) (hhigh : b ≤ high) :
    glyphsFrom (some ⟨0, low, high, bits⟩) (b :: rest) =
      .char (Char.ofNat (bits * 64 + (b.toNat - 0x80))) :: glyphsFrom none rest := by
  rw [glyphsFrom, if_pos ⟨hlow, hhigh⟩]

/-- A byte that does not go on with a character is read as if it were the first, behind a damaged place. -/
theorem glyphsFrom_broken {begun : Begun} (outside : ¬(begun.low ≤ b ∧ b ≤ begun.high)) :
    glyphsFrom (some begun) (b :: rest) = .damaged :: glyphsFrom none (b :: rest) := by
  simp only [glyphsFrom, if_neg outside]
  cases start b <;> rfl

/-! ## Bytes of characters -/

/-- A byte after the first holds six bits. -/
theorem toNat_following (v : Nat) : (UInt8.ofNat (v % 64 + 128)).toNat = v % 64 + 128 := by
  rw [UInt8.toNat_ofNat']
  omega

theorem following_bounds (v : Nat) :
    (0x80 : UInt8) ≤ UInt8.ofNat (v % 64 + 128) ∧ UInt8.ofNat (v % 64 + 128) ≤ 0xBF := by
  rw [UInt8.le_iff_toNat_le, UInt8.le_iff_toNat_le, toNat_following]
  constructor
  · exact Nat.le_add_left _ _
  · show v % 64 + 128 ≤ 191
    omega

theorem start_one (h : v ≤ 127) : start (UInt8.ofNat v) = .inl (.char (Char.ofNat v)) := by
  have byte : (UInt8.ofNat v).toNat = v := by
    rw [UInt8.toNat_ofNat']
    omega
  simp only [start, byte]
  rw [if_pos (by omega)]

theorem start_two (low : 127 < v) (high : v ≤ 2047) :
    start (UInt8.ofNat (v / 64 % 32 + 192)) = .inr ⟨0, 0x80, 0xBF, v / 64⟩ := by
  have byte : (UInt8.ofNat (v / 64 % 32 + 192)).toNat = v / 64 + 192 := by
    rw [UInt8.toNat_ofNat']
    omega
  simp only [start, byte]
  rw [if_neg (by omega), if_neg (by omega), if_pos (by omega), Nat.add_sub_cancel]

/-- The bounds of the second byte of three leave out what fits in two bytes and half surrogate pairs. -/
theorem start_three (low : 2047 < v) (high : v ≤ 65535) (valid : v.isValidChar) :
    ∃ least most, start (UInt8.ofNat (v / 4096 % 16 + 224)) = .inr ⟨1, least, most, v / 4096⟩ ∧
      least ≤ UInt8.ofNat (v / 64 % 64 + 128) ∧ UInt8.ofNat (v / 64 % 64 + 128) ≤ most := by
  have byte : (UInt8.ofNat (v / 4096 % 16 + 224)).toNat = v / 4096 + 224 := by
    rw [UInt8.toNat_ofNat']
    omega
  simp only [start, byte, UInt8.le_iff_toNat_le]
  rw [if_neg (by omega), if_neg (by omega), if_neg (by omega)]
  by_cases first : v / 4096 = 0
  · refine ⟨0xA0, 0xBF, by rw [if_pos (by omega), first], ?_⟩
    rw [toNat_following]
    show 160 ≤ _ ∧ _ ≤ 191
    omega
  rw [if_neg (by omega)]
  by_cases surrogates : v / 4096 = 13
  · refine ⟨0x80, 0x9F, by rw [if_pos (by omega), surrogates], ?_⟩
    rw [toNat_following]
    show 128 ≤ _ ∧ _ ≤ 159
    rcases valid with below | above <;> omega
  · refine ⟨0x80, 0xBF, ?_, following_bounds _⟩
    rw [if_neg (by omega), if_pos (by omega), Nat.add_sub_cancel]

/-- The bounds of the second byte of four leave out what fits in three bytes and what is past the last
character. -/
theorem start_four (low : 65535 < v) (valid : v.isValidChar) :
    ∃ least most, start (UInt8.ofNat (v / 262144 % 8 + 240)) = .inr ⟨2, least, most, v / 262144⟩ ∧
      least ≤ UInt8.ofNat (v / 4096 % 64 + 128) ∧ UInt8.ofNat (v / 4096 % 64 + 128) ≤ most := by
  have last : v < 1114112 := by rcases valid with below | above <;> omega
  have byte : (UInt8.ofNat (v / 262144 % 8 + 240)).toNat = v / 262144 + 240 := by
    rw [UInt8.toNat_ofNat']
    omega
  simp only [start, byte, UInt8.le_iff_toNat_le]
  rw [if_neg (by omega), if_neg (by omega), if_neg (by omega), if_neg (by omega), if_neg (by omega),
    if_neg (by omega)]
  by_cases first : v / 262144 = 0
  · refine ⟨0x90, 0xBF, by rw [if_pos (by omega), first], ?_⟩
    rw [toNat_following]
    show 144 ≤ _ ∧ _ ≤ 191
    omega
  rw [if_neg (by omega)]
  by_cases final : v / 262144 = 4
  · refine ⟨0x80, 0x8F, by rw [if_neg (by omega), if_pos (by omega), final], ?_⟩
    rw [toNat_following]
    show 128 ≤ _ ∧ _ ≤ 143
    omega
  · refine ⟨0x80, 0xBF, ?_, following_bounds _⟩
    rw [if_pos (by omega), Nat.add_sub_cancel]

/-- The bytes of a character are read as that character, whatever follows. -/
theorem glyphsFrom_encodeChar (c : Char) (rest : List UInt8) :
    glyphsFrom none (String.utf8EncodeChar c ++ rest) = .char c :: glyphsFrom none rest := by
  have whole : Char.ofNat c.val.toNat = c := Char.ofNat_toNat c
  have valid : c.val.toNat.isValidChar := c.valid
  rw [String.utf8EncodeChar]
  generalize c.val.toNat = v at whole valid ⊢
  subst whole
  split
  · next one => exact glyphsFrom_whole (start_one one)
  split
  · next low two =>
    have bounds := following_bounds v
    have bits : v / 64 * 64 + (v % 64 + 128 - 0x80) = v := by omega
    simp only [List.cons_append, List.nil_append]
    rw [glyphsFrom_first (start_two (by omega) two), glyphsFrom_last bounds.1 bounds.2,
      toNat_following, bits]
  split
  · next low three =>
    obtain ⟨least, most, first, second⟩ := start_three (by omega) three valid
    have bounds := following_bounds v
    have bits : (v / 4096 * 64 + (v / 64 % 64 + 128 - 0x80)) * 64 + (v % 64 + 128 - 0x80) = v := by
      omega
    simp only [List.cons_append, List.nil_append]
    rw [glyphsFrom_first first, glyphsFrom_next second.1 second.2,
      glyphsFrom_last bounds.1 bounds.2, toNat_following, toNat_following, bits]
  · next low =>
    obtain ⟨least, most, first, second⟩ := start_four (by omega) valid
    have third := following_bounds (v / 64)
    have bounds := following_bounds v
    have bits : ((v / 262144 * 64 + (v / 4096 % 64 + 128 - 0x80)) * 64 +
        (v / 64 % 64 + 128 - 0x80)) * 64 + (v % 64 + 128 - 0x80) = v := by omega
    simp only [List.cons_append, List.nil_append]
    rw [glyphsFrom_first first, glyphsFrom_next second.1 second.2, glyphsFrom_next third.1 third.2,
      glyphsFrom_last bounds.1 bounds.2, toNat_following, toNat_following, toNat_following, bits]

/-! ## Texts -/

/-- A text that was written is read as it was. -/
theorem glyphs_encode (s : String) : glyphs (encode s) = glyphsOf s := by
  rw [glyphs, encode, glyphsOf]
  induction s.toList with
  | nil => rfl
  | cons c cs ih => rw [List.flatMap_cons, glyphsFrom_encodeChar, ih, List.map_cons]

theorem encode_ne_nil {s : String} (h : s.toList ≠ []) : encode s ≠ [] := by
  intro nothing
  have read := glyphs_encode s
  rw [nothing, glyphsOf] at read
  exact h (List.map_eq_nil_iff.1 read.symm)

/-! ## Dividing bytes -/

/-- What one byte shows at once, and what it leaves begun.  If it shows a character, that comes last and
nothing is left. -/
structure Steps (begun : Option Begun) (b : UInt8) (shown : List Glyph) (begun' : Option Begun) : Prop where
  shows : ∀ rest, glyphsFrom begun (b :: rest) = shown ++ glyphsFrom begun' rest
  ends : ∀ front c back, shown = front ++ .char c :: back → back = [] ∧ begun' = none

variable {begun begun' : Option Begun} {shown : List Glyph}

theorem Steps.whole {g : Glyph} (shows : ∀ rest, glyphsFrom begun (b :: rest) = g :: glyphsFrom none rest) :
    Steps begun b [g] none where
  shows := shows
  ends front c back same := by
    obtain ⟨-, one⟩ | ⟨-, none⟩ := List.append_eq_singleton_iff.1 same.symm
    · exact ⟨(List.cons.inj one).2, rfl⟩
    · cases none

theorem Steps.onward (shows : ∀ rest, glyphsFrom begun (b :: rest) = glyphsFrom begun' rest) :
    Steps begun b [] begun' where
  shows := shows
  ends front c back same := by simp at same

theorem Steps.broken {begun : Begun} (h : Steps none b shown begun')
    (outside : ¬(begun.low ≤ b ∧ b ≤ begun.high)) :
    Steps (some begun) b (.damaged :: shown) begun' where
  shows rest := by rw [List.cons_append, ← h.shows, glyphsFrom_broken outside]
  ends front c back same := by
    cases front with
    | nil => cases same
    | cons _ front => exact h.ends front c back (List.cons.inj same).2

theorem exists_steps_none (b : UInt8) : ∃ shown begun', Steps none b shown begun' := by
  cases begins : start b with
  | inl g => exact ⟨_, _, .whole fun _ => glyphsFrom_whole begins⟩
  | inr begun => exact ⟨_, _, .onward fun _ => glyphsFrom_first begins⟩

theorem exists_steps (begun : Option Begun) (b : UInt8) : ∃ shown begun', Steps begun b shown begun' := by
  rcases begun with _ | ⟨more, low, high, bits⟩
  · exact exists_steps_none b
  · by_cases within : low ≤ b ∧ b ≤ high
    · cases more with
      | zero => exact ⟨_, _, .whole fun _ => glyphsFrom_last within.1 within.2⟩
      | succ more => exact ⟨_, _, .onward fun _ => glyphsFrom_next within.1 within.2⟩
    · obtain ⟨shown, begun', steps⟩ := exists_steps_none b
      exact ⟨_, _, steps.broken within⟩

/-- Bytes show something, and so does what has been begun. -/
theorem eq_of_glyphsFrom_eq_nil {bytes : List UInt8}
    (nothing : glyphsFrom begun bytes = []) : begun = none ∧ bytes = [] := by
  fun_induction glyphsFrom begun bytes with
  | case1 => exact ⟨rfl, rfl⟩
  | case4 b rest begun _ ih => cases (ih nothing).1
  | case6 begun b rest _ _ more _ ih => cases (ih nothing).1
  | _ => cases nothing

/-- Where the last thing that bytes show is a character, what follows shows as if nothing stood before
it. -/
theorem glyphsFrom_append {first : List UInt8} {c : Char}
    (last : (glyphsFrom begun first).getLast? = some (.char c)) (rest : List UInt8) :
    glyphsFrom begun (first ++ rest) = glyphsFrom begun first ++ glyphs rest := by
  induction first generalizing begun with
  | nil => cases begun <;> cases last
  | cons b first ih =>
    obtain ⟨shown, begun', steps⟩ := exists_steps begun b
    rw [steps.shows] at last
    rw [List.cons_append, steps.shows, steps.shows, List.append_assoc]
    by_cases ended : glyphsFrom begun' first = []
    · obtain ⟨rfl, rfl⟩ := eq_of_glyphsFrom_eq_nil ended
      rfl
    · rw [List.getLast?_append, List.getLast?_eq_some_getLast ended, Option.some_or,
        ← List.getLast?_eq_some_getLast ended] at last
      rw [ih last]

theorem glyphs_append {first : List UInt8} {c : Char} (last : (glyphs first).getLast? = some (.char c))
    (rest : List UInt8) : glyphs (first ++ rest) = glyphs first ++ glyphs rest :=
  glyphsFrom_append last rest

/-- Bytes are divided behind every character they show. -/
theorem exists_split_glyphsFrom {bytes : List UInt8} {front back : List Glyph} {c : Char}
    (showing : glyphsFrom begun bytes = front ++ .char c :: back) :
    ∃ first rest, bytes = first ++ rest ∧ glyphsFrom begun first = front ++ [.char c] ∧
      glyphs rest = back := by
  induction bytes generalizing begun front with
  | nil => cases begun <;> cases front <;> simp [glyphsFrom] at showing
  | cons b bytes ih =>
    obtain ⟨shown, begun', steps⟩ := exists_steps begun b
    rw [steps.shows] at showing
    obtain ⟨later, rfl, behind⟩ | ⟨later, rfl, behind⟩ := List.append_eq_append_iff.1 showing
    · obtain ⟨first, rest, rfl, same, left⟩ := ih behind
      exact ⟨b :: first, rest, rfl, by rw [steps.shows, same, List.append_assoc], left⟩
    · cases later with
      | nil =>
        have next : glyphsFrom begun' bytes = [] ++ .char c :: back := behind.symm
        obtain ⟨first, rest, rfl, same, left⟩ := ih next
        exact ⟨b :: first, rest, rfl, by rw [steps.shows, same]; simp, left⟩
      | cons g later =>
        obtain ⟨rfl, left⟩ := List.cons.inj behind
        obtain ⟨rfl, rfl⟩ := steps.ends _ _ _ rfl
        exact ⟨[b], bytes, rfl, (steps.shows []).trans (List.append_nil _), left.symm⟩

end Utf8

end RealmSetup
