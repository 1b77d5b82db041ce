import RealmSetup.Text.CanonicalTable

/-!
# Canonical composition

Two texts can show the same characters, once with a letter and its accent apart and once composed.
`Text.composed` brings a text into its composed form: every character is decomposed, the marks after a
letter are put into the order of their classes, and then each mark that can be is composed with the
letter before it, unless a mark in between is in its way.
-/

namespace RealmSetup.Text

/-! ## Properties -/

/-- The characters that their parts are composed to, each with its parts. -/
def composites : List (List Nat) := tableRows composedTable

/-- The characters whose parts are not composed to them, each with its parts. -/
def divided : List (List Nat) := tableRows dividedTable

/-- The combining classes other than zero. -/
def combiningRows : List (List Nat) := tableRows combiningTable

/-- The combining class of a character; those of class zero are not moved. -/
def combiningClass (c : Char) : Nat :=
  let n := c.toNat
  let row := if n < 0x300 then none else combiningRows.find? fun
    | [first, last, _] => first ≤ n && n ≤ last
    | _ => false
  match row with
  | some [_, _, k] => k
  | _ => 0

/-! ## Hangul -/

/-- Whether a code point is that of a Hangul syllable. -/
def isSyllable (n : Nat) : Bool := 0xAC00 ≤ n && n ≤ 0xD7A3

/-- The parts of a Hangul syllable: a consonant, a vowel and perhaps another consonant. -/
def syllableParts (n : Nat) : List Nat :=
  let i := n - 0xAC00
  let front := [0x1100 + i / 588, 0x1161 + i % 588 / 28]
  if i % 28 = 0 then front else front ++ [0x11A7 + i % 28]

/-- The Hangul syllable of two parts, of which the first may be a syllable without an end. -/
def syllable? (a b : Nat) : Option Nat :=
  if 0x1100 ≤ a && a ≤ 0x1112 && 0x1161 ≤ b && b ≤ 0x1175 then
    some (0xAC00 + ((a - 0x1100) * 21 + (b - 0x1161)) * 28)
  else if isSyllable a && (a - 0xAC00) % 28 == 0 && 0x11A8 ≤ b && b ≤ 0x11C2 then
    some (a + (b - 0x11A7))
  else none

/-! ## Decomposing -/

/-- The parts of a code point, with the parts of parts. -/
def partsOf (n : Nat) : List Nat :=
  if n < 0xC0 then [n]
  else if isSyllable n then syllableParts n
  else
    match (composites ++ divided).find? fun row => row.head? = some n with
    | some (_ :: parts) => parts
    | _ => [n]

/-- Puts a character in front of marks in order; a mark goes behind those of lower classes. -/
def placeMark (c : Char) : List Char → List Char
  | [] => [c]
  | d :: rest =>
    if combiningClass d ≠ 0 && combiningClass d < combiningClass c then d :: placeMark c rest
    else c :: d :: rest

/-- The parts of a text, with all marks in order. -/
def decomposed (cs : List Char) : List Char :=
  (cs.flatMap fun c => (partsOf c.toNat).map Char.ofNat).foldr placeMark []

/-! ## Composing -/

/-- The character two characters are composed to, if there is one. -/
def composite? (a b : Char) : Option Char :=
  match syllable? a.toNat b.toNat with
  | some n => some (Char.ofNat n)
  | none =>
    let parts := partsOf a.toNat ++ [b.toNat]
    (composites.find? fun row => row.drop 1 == parts).bind fun row => row.head?.map Char.ofNat

/-- Composes what follows a letter with it, where `passed` holds the marks that stay behind it so far,
the last one first. -/
def composeAfter (letter : Char) (passed : List Char) : List Char → List Char
  | [] => letter :: passed.reverse
  | c :: rest =>
    let free := passed.head?.all fun d => combiningClass d < combiningClass c
    match if free then composite? letter c else none with
    | some whole => composeAfter whole passed rest
    | none =>
      if combiningClass c = 0 then letter :: passed.reverse ++ composeAfter c [] rest
      else composeAfter letter (c :: passed) rest

/-- Composes a text of parts in order. -/
def composeAll : List Char → List Char
  | [] => []
  | c :: rest =>
    if combiningClass c = 0 then composeAfter c [] rest else c :: composeAll rest

/-- A text in its composed form.  What stands below all marks is in it already. -/
def composed (cs : List Char) : List Char :=
  if cs.all fun c => c.toNat < 0x300 then cs else composeAll (decomposed cs)

end RealmSetup.Text
