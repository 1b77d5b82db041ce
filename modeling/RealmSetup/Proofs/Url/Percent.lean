import Mathlib.Logic.Function.Basic
import Mathlib.Tactic.Tauto
import RealmSetup.Proofs.Text.Encoding
import RealmSetup.Url.Path

/-!
# What is percent-encoded can be told apart

A text is read back from its percent-encoding: each escape stands for a byte, and every other character
for its own bytes (`decode_encode`).  All that is needed is that percent signs themselves are encoded, as
they are in a segment that is added to a path.  Texts with the same encoding are therefore the same
(`encode_injective`), and only `.` and `..` are encoded as segments that stand for a place
(`isSingleDot_encode`, `isDoubleDot_encode`).
-/

namespace RealmSetup

/-- Texts that consist of the same bytes are the same. -/
theorem Utf8.flatMap_injective : Function.Injective (List.flatMap String.utf8EncodeChar) := by
  intro cs ds same
  have glyphs : glyphsOf (.ofList cs) = glyphsOf (.ofList ds) := by
    rw [← glyphs_encode, ← glyphs_encode, encode, encode, String.toList_ofList, String.toList_ofList]
    exact congrArg _ same
  simpa [glyphsOf, List.map_inj_right] using glyphs

namespace Percent

variable {inSet : Char → Bool} {cs ds : List Char}

/-! ## Reading back -/

theorem hexValue?_hexDigit {n : Nat} (h : n < 16) : hexValue? (hexDigit n) = some n := by
  revert n
  decide

theorem decode_encodeByte (b : UInt8) (rest : List Char) :
    decode (encodeByte b ++ rest) = b :: decode rest := by
  have bound := b.toNat_lt
  have high : hexValue? (hexDigit (b.toNat / 16)) = some (b.toNat / 16) :=
    hexValue?_hexDigit (by omega)
  have low : hexValue? (hexDigit (b.toNat % 16)) = some (b.toNat % 16) :=
    hexValue?_hexDigit (by omega)
  have whole : b.toNat / 16 * 16 + b.toNat % 16 = b.toNat := by omega
  simp [encodeByte, decode, high, low, whole]

theorem decode_flatMap_encodeByte (bytes : List UInt8) (rest : List Char) :
    decode (bytes.flatMap encodeByte ++ rest) = bytes ++ decode rest := by
  induction bytes with
  | nil => rfl
  | cons b bytes ih => rw [List.flatMap_cons, List.append_assoc, decode_encodeByte, ih]; rfl

theorem decode_cons {c : Char} (plain : c ≠ '%') (rest : List Char) :
    decode (c :: rest) = String.utf8EncodeChar c ++ decode rest := by
  rw [decode]
  rintro a b rest' rfl
  contradiction

/-- A text is read back from its encoding if percent signs are encoded. -/
theorem decode_encode (percent : inSet '%' = true) :
    decode (encode inSet cs) = cs.flatMap String.utf8EncodeChar := by
  induction cs with
  | nil => rfl
  | cons c cs ih =>
    rw [encode, List.flatMap_cons, ← encode, List.flatMap_cons]
    split
    · rw [encodeChar, decode_flatMap_encodeByte, ih]
    · next plain =>
      have other : c ≠ '%' := fun same => plain (by simp [same, percent])
      rw [List.singleton_append, decode_cons other, ih]

theorem encode_injective (percent : inSet '%' = true) : Function.Injective (encode inSet) := by
  intro cs ds same
  refine Utf8.flatMap_injective ?_
  rw [← decode_encode percent, same, decode_encode percent]

/-- A text that is encoded holds percent signs, digits, and what needs no encoding. -/
theorem mem_encode {c : Char} (mem : c ∈ encode inSet cs) :
    c = '%' ∨ (∃ n < 16, c = hexDigit n) ∨ inSet c = false := by
  obtain ⟨d, -, mem⟩ := List.mem_flatMap.1 mem
  split at mem
  · obtain ⟨b, -, mem⟩ := List.mem_flatMap.1 mem
    have bound := b.toNat_lt
    rcases List.mem_cons.1 mem with sign | mem
    · exact .inl sign
    rcases List.mem_cons.1 mem with high | mem
    · exact .inr (.inl ⟨_, by omega, high⟩)
    · exact .inr (.inl ⟨_, by omega, List.mem_singleton.1 mem⟩)
  · next plain =>
    obtain rfl := List.mem_singleton.1 mem
    exact .inr (.inr (Bool.eq_false_iff.2 fun encoded => plain (by simp [encoded])))

/-- Slashes do not show in what is encoded if they are encoded. -/
theorem slash_notMem_encode (slash : inSet '/' = true) : '/' ∉ encode inSet cs := by
  intro mem
  obtain sign | ⟨n, bound, digit⟩ | plain := mem_encode mem
  · cases sign
  · exact absurd digit (by revert n; decide)
  · exact absurd slash (by simp [plain])

/-! ## Segments that stand for a place -/

/-- The code of a letter in lower case. -/
theorem toNat_toLower (c : Char) :
    c.toLower.toNat = if 65 ≤ c.toNat ∧ c.toNat ≤ 90 then c.toNat + 32 else c.toNat := by
  have upper : (c.val ≥ 'A'.val ∧ c.val ≤ 'Z'.val) ↔ 65 ≤ c.toNat ∧ c.toNat ≤ 90 := Iff.rfl
  delta Char.toLower
  split
  · next raised =>
    have bounds := upper.1 raised
    rw [if_pos bounds]
    show (c.val + 32).toNat = c.toNat + 32
    rw [UInt32.toNat_add]
    exact Nat.mod_eq_of_lt (show c.toNat + 32 < 2 ^ 32 by omega)
  · next other => rw [if_neg (mt upper.2 other)]

/-- Signs in front of the letters are the same in lower case. -/
theorem toLower_eq_iff {c d : Char} (sign : d.toNat < 65) : c.toLower = d ↔ c = d := by
  rw [← Char.toNat_inj, ← Char.toNat_inj, toNat_toLower]
  split <;> omega

theorem toLower_eq_e_iff {c : Char} : c.toLower = 'e' ↔ c = 'e' ∨ c = 'E' := by
  simp only [← Char.toNat_inj, toNat_toLower, Char.reduceToNat]
  split <;> omega

/-- The ways in which a segment for the place itself is written. -/
theorem isSingleDot_iff : Url.isSingleDot cs = true ↔
    cs = ['.'] ∨ cs = ['%', '2', 'e'] ∨ cs = ['%', '2', 'E'] := by
  simp [Url.isSingleDot, List.map_eq_cons_iff, toLower_eq_iff, toLower_eq_e_iff, and_or_left,
    exists_or]

/-- A segment for the place above is written as two for the place itself. -/
theorem isDoubleDot_iff : Url.isDoubleDot cs = true ↔
    ∃ first second, Url.isSingleDot first = true ∧ Url.isSingleDot second = true ∧
      cs = first ++ second := by
  simp [isSingleDot_iff, Url.isDoubleDot, List.map_eq_cons_iff, toLower_eq_iff, toLower_eq_e_iff,
    and_or_left, or_and_right, exists_or]
  tauto

/-- Only `.` is encoded as a segment for the place itself. -/
theorem isSingleDot_encode (percent : inSet '%' = true) (dot : inSet '.' = false) :
    Url.isSingleDot (encode inSet cs) = true ↔ cs = ['.'] := by
  constructor
  · intro h
    refine Utf8.flatMap_injective ?_
    rw [← decode_encode percent]
    obtain same | same | same := isSingleDot_iff.1 h <;> rw [same] <;> decide
  · rintro rfl
    simp [encode, dot, Url.isSingleDot]

/-- Only `..` is encoded as a segment for the place above. -/
theorem isDoubleDot_encode (percent : inSet '%' = true) (dot : inSet '.' = false) :
    Url.isDoubleDot (encode inSet cs) = true ↔ cs = ['.', '.'] := by
  constructor
  · intro h
    refine Utf8.flatMap_injective ?_
    rw [← decode_encode percent]
    obtain ⟨first, second, once, again, same⟩ := isDoubleDot_iff.1 h
    obtain rfl | rfl | rfl := isSingleDot_iff.1 once <;>
      obtain rfl | rfl | rfl := isSingleDot_iff.1 again <;> rw [same] <;> decide
  · rintro rfl
    simp [encode, dot, Url.isDoubleDot]

end Percent

end RealmSetup
