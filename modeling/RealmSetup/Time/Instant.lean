/-!
# Points in time

A point in time is a signed number of nanoseconds from the beginning of 1970, in universal time.
Only the years from -9999 to 9999 exist; moving past either end is not possible, so `Instant.add?`
gives nothing there.
-/

namespace RealmSetup

/-- A point in time, in nanoseconds from the beginning of 1970. -/
structure Instant where
  /-- The signed distance from the beginning of 1970, in nanoseconds. -/
  nanos : Int
  deriving DecidableEq, Repr

namespace Instant

/-- The beginning of the year -9999. -/
def first : Instant := ⟨-377705116800 * 1000000000⟩

/-- The last nanosecond of the year 9999. -/
def last : Instant := ⟨253402300800 * 1000000000 - 1⟩

/-- Whether a point in time exists. -/
def InRange (t : Instant) : Prop := first.nanos ≤ t.nanos ∧ t.nanos ≤ last.nanos

instance (t : Instant) : Decidable t.InRange :=
  inferInstanceAs (Decidable (_ ∧ _))

/-- The point in time a signed number of nanoseconds after `t`, when it exists. -/
def add? (t : Instant) (nanos : Int) : Option Instant :=
  let moved : Instant := ⟨t.nanos + nanos⟩
  if moved.InRange then some moved else none

/-- The point in time a number of whole seconds after the beginning of 1970. -/
def ofUnixSecs (n : Int) : Instant := ⟨n * 1000000000⟩

end Instant

end RealmSetup
