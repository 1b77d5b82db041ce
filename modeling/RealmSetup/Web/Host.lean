import RealmSetup.Step
import RealmSetup.Time.Instant
import RealmSetup.Web.Message

/-!
# The surroundings of a client

Everything a client of a server relies on: the connection, the calendar and the clock, chance, and the
journal.
-/

namespace RealmSetup

/-- A call to the surroundings of a client. -/
inductive Host.Call where
  /-- Sends a request and waits for the reply. -/
  | exchange (request : Request)
  /-- Reads the calendar. -/
  | now
  /-- Reads the clock. -/
  | elapsed
  | sleep (d : Duration)
  | drawSeed
  | drawId
  | note (n : Note)

/-- What a call to the surroundings is answered with.  A connection can fail, for some cause. -/
abbrev Host.Answer : Host.Call → Type
  | .exchange _ => Except String Reply
  | .now => Instant
  | .elapsed => Duration
  | .sleep _ => Unit
  | .drawSeed => Nat
  | .drawId => Nat
  | .note _ => Unit

/-- The surroundings of a client. -/
def Host : Interface where
  Call := Host.Call
  Answer := Host.Answer

instance : Offers Host Host where
  perform c := Program.call c

instance : Offers Host Journal where
  perform n := Program.call (I := Host) (.note n)

def exchange {I : Interface} [Offers I Host] (request : Request) : Attempt I Reply :=
  .ofProgram do
    let answer ← Offers.perform (I := Host) (.exchange request)
    match (answer : Except String Reply) with
    | .ok reply => return .ok reply
    | .error cause => return .error (networkFailure cause)

end RealmSetup
