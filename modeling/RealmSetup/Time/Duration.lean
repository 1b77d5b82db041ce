/-!
# Lengths of time

A length of time is a number of nanoseconds.  Its text names the largest of the units second,
millisecond, microsecond and nanosecond that is at least one, followed by the exact fraction without
trailing zeros: `61.05s`, `1.5µs`, `0ns`.
-/

namespace RealmSetup

/-- A length of time, exact to the nanosecond. -/
structure Duration where
  nanos : Nat
  deriving DecidableEq, Repr

namespace Duration

def zero : Duration := ⟨0⟩

def ofSecs (n : Nat) : Duration := ⟨n * 1000000000⟩

/-- A number of whole milliseconds. -/
def ofMillis (n : Nat) : Duration := ⟨n * 1000000⟩

/-- The whole seconds in a length of time; what is left over is dropped. -/
def wholeSecs (d : Duration) : Nat := d.nanos / 1000000000

/-- The whole milliseconds in a length of time; what is left over is dropped. -/
def wholeMillis (d : Duration) : Nat := d.nanos / 1000000

/-- The shorter of two lengths of time. -/
def min (d e : Duration) : Duration := if d.nanos ≤ e.nanos then d else e

/-- The longest time anything sleeps at once: thirty years of 365 days. -/
def longestSleep : Duration := ofSecs (30 * 365 * 86400)

/-- The time that passes when something sleeps for `d`. -/
def asleep (d : Duration) : Duration := d.min longestSleep

/-- What is left of `d` when `e` has passed; nothing once `e` is as long as `d`. -/
def sub (d e : Duration) : Duration := ⟨d.nanos - e.nanos⟩

/-- Drops the zeros at the end of a decimal fraction. -/
def trimZeros (digits : List Char) : List Char :=
  (digits.reverse.dropWhile (· == '0')).reverse

/-- The text of `value` in units of `10 ^ places`, as whole units and an exact decimal fraction. -/
def inUnits (value places : Nat) : String :=
  let unit := Nat.pow 10 places
  let digits := Nat.toDigits 10 (value % unit)
  let fraction := trimZeros (List.replicate (places - digits.length) '0' ++ digits)
  toString (value / unit) ++
    match fraction with
    | [] => ""
    | _ => String.ofList ('.' :: fraction)

/-- The text of a length of time in its largest unit. -/
def text (d : Duration) : String :=
  if 1000000000 ≤ d.nanos then inUnits d.nanos 9 ++ "s"
  else if 1000000 ≤ d.nanos then inUnits d.nanos 6 ++ "ms"
  else if 1000 ≤ d.nanos then inUnits d.nanos 3 ++ "µs"
  else inUnits d.nanos 0 ++ "ns"

end Duration

end RealmSetup
