/-!
# Reading bytes as UTF-8

`Utf8.glyphs` reads any sequence of bytes: well-formed sequences become characters, and each longest
run of bytes that begins a character but is not completed, or a byte that begins none, becomes one
`Glyph.damaged`.  Readers that insist on valid text refuse damaged glyphs; `Utf8.lossy` shows each as
a replacement character and drops a byte order mark in front.
-/

namespace RealmSetup

/-- One unit of text read from bytes: a character, or bytes that are part of none. -/
inductive Glyph where
  | char (c : Char)
  /-- Bytes that do not form a character. -/
  | damaged
  deriving DecidableEq, Repr

namespace Glyph

/-- The character a glyph is shown as: U+FFFD for a damaged one. -/
def shown : Glyph → Char
  | .char c => c
  | .damaged => '\uFFFD'

/-- The character a glyph holds, if it is not damaged. -/
def char? : Glyph → Option Char
  | .char c => some c
  | .damaged => none

end Glyph

namespace Utf8

/-- A character of which the first bytes have been read: how many more bytes it needs, the bounds of
the next one, and the bits read so far. -/
structure Begun where
  /-- How many more bytes are needed after the next. -/
  more : Nat
  /-- The least value of the next byte. -/
  low : UInt8
  /-- The greatest value of the next byte. -/
  high : UInt8
  /-- The bits read so far. -/
  bits : Nat

/-- What a byte at the beginning of a character means: a whole character, the first byte of a longer
one, or no character at all.  The bounds of the second byte leave out overlong forms, surrogates and
values past the last character. -/
def start (b : UInt8) : Glyph ⊕ Begun :=
  let n := b.toNat
  if n < 0x80 then .inl (.char (Char.ofNat n))
  else if n < 0xC2 then .inl .damaged
  else if n < 0xE0 then .inr ⟨0, 0x80, 0xBF, n - 0xC0⟩
  else if n = 0xE0 then .inr ⟨1, 0xA0, 0xBF, 0⟩
  else if n = 0xED then .inr ⟨1, 0x80, 0x9F, 0xD⟩
  else if n < 0xF0 then .inr ⟨1, 0x80, 0xBF, n - 0xE0⟩
  else if n = 0xF0 then .inr ⟨2, 0x90, 0xBF, 0⟩
  else if n < 0xF4 then .inr ⟨2, 0x80, 0xBF, n - 0xF0⟩
  else if n = 0xF4 then .inr ⟨2, 0x80, 0x8F, 4⟩
  else .inl .damaged

/-- Reads bytes on from a character that may have been begun. -/
def glyphsFrom : Option Begun → List UInt8 → List Glyph
  | none, [] => []
  | some _, [] => [.damaged]
  | none, b :: rest =>
    match start b with
    | .inl g => g :: glyphsFrom none rest
    | .inr begun => glyphsFrom (some begun) rest
  | some begun, b :: rest =>
    if begun.low ≤ b ∧ b ≤ begun.high then
      let bits := begun.bits * 64 + (b.toNat - 0x80)
      match begun.more with
      | 0 => .char (Char.ofNat bits) :: glyphsFrom none rest
      | more + 1 => glyphsFrom (some ⟨more, 0x80, 0xBF, bits⟩) rest
    else
      match start b with
      | .inl g => .damaged :: g :: glyphsFrom none rest
      | .inr next => .damaged :: glyphsFrom (some next) rest

/-- Reads bytes as text, damaged places included. -/
def glyphs (bytes : List UInt8) : List Glyph :=
  glyphsFrom none bytes

def encode (s : String) : List UInt8 :=
  s.toList.flatMap String.utf8EncodeChar

/-- Reads bytes as text for display: a byte order mark in front is dropped and each damaged place is
shown as U+FFFD. -/
def lossy (bytes : List UInt8) : String :=
  String.ofList <|
    match glyphs bytes with
    | .char '\uFEFF' :: rest => rest.map Glyph.shown
    | all => all.map Glyph.shown

/-- Reads bytes as text, or nothing when a place is damaged. -/
def decode? (bytes : List UInt8) : Option String :=
  ((glyphs bytes).mapM Glyph.char?).map String.ofList

end Utf8

/-- The glyphs of a text: its characters, none of them damaged. -/
def glyphsOf (s : String) : List Glyph :=
  s.toList.map Glyph.char

end RealmSetup
