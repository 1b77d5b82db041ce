/-!
# Punycode

Host labels outside ASCII are written with ASCII letters and digits.  The ASCII characters of a label
come first, then, in ascending order, the others as differences to the state reached so far, each
difference a number of variable length in base 36 whose digit thresholds adapt to the differences
seen.  `encode` writes a label and `decode?` reads one.
-/

namespace RealmSetup.Punycode

/-- A digit of base 36: the letters, then the decimal digits. -/
def digitChar (d : Nat) : Char :=
  if d < 26 then Char.ofNat ('a'.toNat + d) else Char.ofNat ('0'.toNat + (d - 26))

/-- The threshold of the digit at position `k`. -/
def threshold (k bias : Nat) : Nat :=
  if k ≤ bias then 1 else if bias + 26 ≤ k then 26 else k - bias

/-- A difference as digits, from position `k`. -/
def differenceDigits (bias : Nat) : Nat → Nat → Nat → List Char
  | 0, q, _ => [digitChar q]
  | fuel + 1, q, k =>
    let t := threshold k bias
    if q < t then [digitChar q]
    else digitChar (t + (q - t) % (36 - t)) ::
      differenceDigits bias fuel ((q - t) / (36 - t)) (k + 36)

/-- Divides by 35 until the difference is small, counting the positions passed. -/
def adaptFrom : Nat → Nat → Nat → Nat × Nat
  | 0, delta, k => (delta, k)
  | fuel + 1, delta, k => if 455 < delta then adaptFrom fuel (delta / 35) (k + 36) else (delta, k)

/-- The bias after a difference has been written. -/
def adapt (delta count : Nat) (first : Bool) : Nat :=
  let delta := if first then delta / 700 else delta / 2
  let (delta, k) := adaptFrom 64 (delta + delta / count) 0
  k + 36 * delta / (delta + 38)

/-- What is known while the characters of a label are written in order. -/
structure State where
  /-- The difference since the last character written. -/
  delta : Nat
  bias : Nat
  /-- How many characters have been written. -/
  written : Nat
  out : List Char

/-- Passes one character of the label while the character with code point `n` is written. -/
def passChar (basic n : Nat) (s : State) (c : Nat) : State :=
  if c < n then { s with delta := s.delta + 1 }
  else if c = n then
    { delta := 0
      bias := adapt s.delta (s.written + 1) (s.written == basic)
      written := s.written + 1
      out := s.out ++ differenceDigits s.bias 64 s.delta 36 }
  else s

/-- Writes the characters of a label from code point `n` upwards. -/
def encodeFrom (label : List Nat) (basic : Nat) : Nat → Nat → State → List Char
  | 0, _, s => s.out
  | fuel + 1, n, s =>
    match (label.filter (n ≤ ·)).min? with
    | none => s.out
    | some m =>
      let s := { s with delta := s.delta + (m - n) * (s.written + 1) }
      let s := label.foldl (passChar basic m) s
      encodeFrom label basic fuel (m + 1) { s with delta := s.delta + 1 }

/-- A label outside ASCII, without the mark in front. -/
def encode (label : List Char) : List Char :=
  let basic := label.filter fun c => c.toNat < 0x80
  let front := if basic.isEmpty then [] else basic ++ ['-']
  encodeFrom (label.map Char.toNat) basic.length label.length 0x80 ⟨0, 72, basic.length, front⟩

/-! ## Reading -/

/-- The value of a digit of base 36; letters count in either case. -/
def digitValue? (c : Char) : Option Nat :=
  if c.isLower then some (c.toNat - 'a'.toNat)
  else if c.isUpper then some (c.toNat - 'A'.toNat)
  else if c.isDigit then some (c.toNat - '0'.toNat + 26)
  else none

/-- Reads a difference from position `k` on, where a digit counts `weight`; the second part is what
follows it. -/
def readDifference (bias k weight : Nat) : List Char → Option (Nat × List Char)
  | [] => none
  | c :: rest => do
    let d ← digitValue? c
    let t := threshold k bias
    if d < t then return (d * weight, rest)
    let (more, rest) ← readDifference bias (k + 36) (weight * (36 - t)) rest
    return (d * weight + more, rest)

/-- The character with a code point, if there is one. -/
def scalar? (n : Nat) : Option Char :=
  if h : n.isValidChar then some (Char.ofNatAux n h) else none

/-- Puts the characters that the rest of a text stands for into a label, of which the characters below
code point `n` are there and the next one goes behind the first `i`.  No text stands for more
characters than it has. -/
def decodeFrom : Nat → Nat → Nat → Nat → List Char → List Char → Option (List Char)
  | _, _, _, _, label, [] => some label
  | 0, _, _, _, _, _ => none
  | fuel + 1, n, i, bias, label, cs => do
    let (difference, rest) ← readDifference bias 36 1 cs
    let count := label.length + 1
    let n := n + (i + difference) / count
    let place := (i + difference) % count
    let c ← scalar? n
    decodeFrom fuel n (place + 1) (adapt difference count (i == 0))
      (label.take place ++ c :: label.drop place) rest

/-- Divides a text at its last hyphen, unless that is its first character. -/
def splitHyphen (cs : List Char) : List Char × List Char :=
  let back := cs.reverse.takeWhile (· != '-')
  let front := (cs.take (cs.length - back.length)).dropLast
  if front.isEmpty then ([], cs) else (front, back.reverse)

/-- The label that a text without the mark in front stands for. -/
def decode? (cs : List Char) : Option (List Char) :=
  if cs.all fun c => c.toNat < 0x80 then
    let (front, digits) := splitHyphen cs
    decodeFrom digits.length 0x80 0 72 front digits
  else none

end RealmSetup.Punycode
