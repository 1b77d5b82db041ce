/-!
# The shortest decimal of a binary fraction

A finite 64-bit float is `m * 2 ^ q`.  The reals that round to it form an interval around it, whose
ends belong to it exactly when `m` is even.  Its shortest decimal is the one with the fewest digits
inside that interval, the nearest to the float among those.

For one digit, two digits and so on the two neighbours of the float on that decimal grid are tested
in exact arithmetic, and the first grid with a hit decides: if any point of a grid lies in the
interval, one of the two neighbours does.
-/

namespace RealmSetup.Decimal

/-- A positive binary fraction `m * 2 ^ q`, with the distance to the float below it halved when
`narrow` holds. -/
structure BinaryFraction where
  /-- The significand. -/
  m : Nat
  /-- The binary exponent. -/
  q : Int
  /-- Whether the float below is only half as far away as the float above. -/
  narrow : Bool

/-- Digits after a decimal point and the power of ten they are multiplied by:
`0.digits * 10 ^ point`. -/
structure Scientific where
  /-- The digits as a number that does not end in zero. -/
  digits : Nat
  /-- How many digits there are. -/
  count : Nat
  /-- The power of ten. -/
  point : Int

/-- The power `10 ^ x`, and one where `x` is negative. -/
def tenTo (x : Int) : Nat := Nat.pow 10 x.toNat

/-- The power `2 ^ x`, and one where `x` is negative. -/
def twoTo (x : Int) : Nat := Nat.pow 2 x.toNat

/-- Whether `a * 10 ^ x ≤ b * 2 ^ y`. -/
def decimalLe (a : Nat) (x : Int) (b : Nat) (y : Int) : Bool :=
  a * tenTo x * twoTo (-y) ≤ b * twoTo y * tenTo (-x)

/-- Whether `a * 10 ^ x < b * 2 ^ y`. -/
def decimalLt (a : Nat) (x : Int) (b : Nat) (y : Int) : Bool :=
  a * tenTo x * twoTo (-y) < b * twoTo y * tenTo (-x)

/-- Whether `a * 10 ^ x` rounds to the float.  In units of `2 ^ (q - 2)` the float is `4 * m` and the
interval reaches two units up and two units, or one, down. -/
def BinaryFraction.roundsFrom (f : BinaryFraction) (a : Nat) (x : Int) : Bool :=
  let low := if f.narrow then 4 * f.m - 1 else 4 * f.m - 2
  let high := 4 * f.m + 2
  if f.m % 2 == 0 then
    !decimalLt a x low (f.q - 2) && decimalLe a x high (f.q - 2)
  else
    !decimalLe a x low (f.q - 2) && decimalLt a x high (f.q - 2)

/-- The number of digits before the decimal point: the least `k` with `m * 2 ^ q < 10 ^ k`, found
upwards from `k`. -/
def BinaryFraction.pointFrom (f : BinaryFraction) : Nat → Int → Int
  | 0, k => k
  | fuel + 1, k => if decimalLe 1 k f.m f.q then f.pointFrom fuel (k + 1) else k

/-- The greatest multiple of `10 ^ x` that is at most the float. -/
def BinaryFraction.floorAt (f : BinaryFraction) (x : Int) : Nat :=
  let above : Nat := f.m * twoTo f.q * tenTo (-x)
  let below : Nat := tenTo x * twoTo (-f.q)
  above / below

/-- Whether the float is nearer to `a * 10 ^ x` than to `(a + 1) * 10 ^ x`, or just between them with
`a` even. -/
def BinaryFraction.nearerBelow (f : BinaryFraction) (a : Nat) (x : Int) : Bool :=
  let middle := 2 * a + 1
  !decimalLe middle x f.m (f.q + 1) || (decimalLe middle x f.m (f.q + 1)
    && !decimalLt middle x f.m (f.q + 1) && a % 2 == 0)

/-- Tests grids of more and more digits, `more` of them after the first, below `10 ^ k`. -/
def BinaryFraction.search (f : BinaryFraction) (k : Int) : Nat → Nat → Nat × Int
  | 0, n => (f.floorAt (k - n), k - n)
  | more + 1, n =>
    let x := k - n
    let a := f.floorAt x
    let below := f.roundsFrom a x && a != 0
    let above := f.roundsFrom (a + 1) x
    if below && (!above || f.nearerBelow a x) then (a, x)
    else if above then (a + 1, x)
    else f.search k more (n + 1)

/-- Moves zeros at the end of the digits into the power of ten. -/
def dropZeros : Nat → Nat → Int → Nat × Int
  | 0, a, x => (a, x)
  | fuel + 1, a, x => if a % 10 == 0 && a != 0 then dropZeros fuel (a / 10) (x + 1) else (a, x)

/-- The shortest decimal that rounds to the float. -/
def BinaryFraction.shortest (f : BinaryFraction) : Scientific :=
  let k := f.pointFrom 640 (-325)
  let (a, x) := f.search k 17 1
  let (a, x) := dropZeros 20 a x
  let count := (Nat.toDigits 10 a).length
  ⟨a, count, x + count⟩

/-- The fraction of a finite positive 64-bit float, from its bits. -/
def BinaryFraction.ofBits (bits : UInt64) : BinaryFraction :=
  let b := bits.toNat % twoTo 63
  let exponent : Nat := b / twoTo 52
  let fraction : Nat := b % twoTo 52
  if exponent = 0 then ⟨fraction, -1074, false⟩
  else ⟨twoTo 52 + fraction, (exponent : Int) - 1075, fraction == 0 && 1 < exponent⟩

end RealmSetup.Decimal
