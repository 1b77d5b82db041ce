import RealmSetup.Decimal.Shortest

/-!
# Numbers of a JSON text

A number is written as an optional sign, whole digits, and optional fraction and exponent: a
`Literal`.  Without fraction and exponent it is an integer when a signed or unsigned 64-bit word can
hold it; every other number becomes a 64-bit float, and none when it is too large for one.

The value of a float is computed from the digits as a 64-bit significand, later digits being dropped
once it is full, which is then multiplied or divided by a power of ten; each step rounds.  A float is
kept by its bits, so that numbers can be compared, and printed with the fewest digits that read back:
in positional notation from `0.00001` up to sixteen digits before the point, with a mark and an
exponent elsewhere, and always with a point or an exponent.
-/

namespace RealmSetup.Json

/-- A number: an integer, or a float given by its bits. -/
inductive Number where
  | int (i : Int)
  /-- A 64-bit float with these bits. -/
  | real (bits : UInt64)
  deriving DecidableEq, Repr

/-- A number as it is written. -/
structure Literal where
  /-- Whether a minus sign stands in front. -/
  negative : Bool
  /-- The digits before the point. -/
  whole : List Char
  /-- The digits after the point, when there is one. -/
  fraction : Option (List Char)
  /-- The exponent, when there is one: whether it is negative, and its digits. -/
  exponent : Option (Bool × List Char)
  deriving DecidableEq, Repr

namespace Literal

def digit (c : Char) : Nat := c.toNat - '0'.toNat

/-- The value of a row of digits. -/
def digits (cs : List Char) : Nat :=
  cs.foldl (fun n c => n * 10 + digit c) 0

/-- The digits before and after the point as a significand below `2 ^ 64`, and the power of ten that
makes up for the digits that were dropped before the point or taken from behind it. -/
structure Significand where
  value : Nat
  /-- The power of ten. -/
  scale : Int
  /-- Whether a digit has been dropped. -/
  full : Bool

/-- Takes in a digit before the point. -/
def Significand.pushWhole (s : Significand) (c : Char) : Significand :=
  let next := s.value * 10 + digit c
  if s.full || UInt64.size ≤ next then { s with scale := s.scale + 1, full := true }
  else { s with value := next }

/-- Takes in a digit behind the point. -/
def Significand.pushFraction (s : Significand) (c : Char) : Significand :=
  let next := s.value * 10 + digit c
  if s.full || UInt64.size ≤ next then { s with full := true }
  else { s with value := next, scale := s.scale - 1 }

def significand (l : Literal) : Significand :=
  let whole := l.whole.foldl Significand.pushWhole ⟨0, 0, false⟩
  (l.fraction.getD []).foldl Significand.pushFraction { whole with full := false }

/-- The greatest exponent that is read as a number. -/
def exponentLimit : Nat := UInt32.size / 2 - 1

/-- Ten to the power `n`, rounded to a float. -/
def pow10 (n : Nat) : Float := Float.ofScientific 1 false n

/-- A significand times a power of ten, each step rounded; nothing when it is too large.  Negative
powers that no float holds are applied in parts. -/
def scale : Nat → Float → Int → Option Float
  | 0, f, _ => some f
  | fuel + 1, f, e =>
    if e.natAbs ≤ 308 then
      if 0 ≤ e then
        let product := f * pow10 e.natAbs
        if product.isInf then none else some product
      else some (f / pow10 e.natAbs)
    else if f == 0.0 then some f
    else if 0 ≤ e then none
    else scale fuel (f / pow10 308) (e + 308)

/-- The magnitude of a literal as a float; nothing when it is too large. -/
def magnitude (l : Literal) : Option Float :=
  let s := l.significand
  let start := s.value.toUInt64.toFloat
  match l.exponent with
  | none => scale 8 start s.scale
  | some (negative, ds) =>
    let e := digits ds
    if exponentLimit < e then
      if s.value ≠ 0 && !negative then none else some 0.0
    else scale 8 start (if negative then s.scale - e else s.scale + e)

/-- The number a literal stands for; nothing when it is too large for a float. -/
def number? (l : Literal) : Option Number :=
  let n := digits l.whole
  let isInteger := l.fraction.isNone && l.exponent.isNone
  if isInteger && !l.negative && decide (n < UInt64.size) then some (.int n)
  else if isInteger && l.negative && decide (0 < n ∧ n ≤ UInt64.size / 2) then some (.int (-n))
  else l.magnitude.map fun f => .real (if l.negative then (-f).toBits else f.toBits)

end Literal

/-! ## Printing -/

namespace Number

/-- The decimal digits of a natural number. -/
def natDigits (n : Nat) : List Char := Nat.toDigits 10 n

def intText : Int → List Char
  | .ofNat n => natDigits n
  | .negSucc n => '-' :: natDigits (n + 1)

def scientificText (s : Decimal.Scientific) : List Char :=
  let ds := natDigits s.digits
  if s.count ≤ s.point ∧ s.point ≤ 16 then
    ds ++ List.replicate (s.point - s.count).toNat '0' ++ ['.', '0']
  else if 0 < s.point ∧ s.point ≤ 16 then
    ds.take s.point.toNat ++ '.' :: ds.drop s.point.toNat
  else if -5 < s.point ∧ s.point ≤ 0 then
    '0' :: '.' :: List.replicate (-s.point).toNat '0' ++ ds
  else
    let exponent := 'e' :: intText (s.point - 1)
    match ds with
    | [d] => d :: exponent
    | d :: more => d :: '.' :: more ++ exponent
    | [] => exponent

/-- The text of a finite float given by its bits. -/
def realText (bits : UInt64) : List Char :=
  let sign := if bits.toNat < UInt64.size / 2 then [] else ['-']
  if bits.toNat % (UInt64.size / 2) = 0 then sign ++ ['0', '.', '0']
  else sign ++ scientificText (Decimal.BinaryFraction.ofBits bits).shortest

def text : Number → List Char
  | .int i => intText i
  | .real bits => realText bits

end Number

end RealmSetup.Json
