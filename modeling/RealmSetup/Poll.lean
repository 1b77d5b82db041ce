import RealmSetup.Step

/-!
# Waiting for something that comes in time

A search fetches what there is, tests one element after the other until one is accepted, and pauses
before it fetches again.  Whether time has run out is asked after every fetch, so that a search never
gives up early, and the last pause is cut to the time that is left.

The number of pauses is bounded beforehand: when every pause lasts as long as asked, time has run out
after as many of them as go into the whole time.

Attempts are counted for the log alone, in 32 bits, so that after very many of them the count begins anew.
Where sums are checked for overflow a search would be stopped at that attempt.

A poll is a search in which elements are tested by a given condition.  What it sleeps for is no longer
than `Duration.longestSleep`, however long the pause that the search asks for.
-/

namespace RealmSetup

/-- How long to wait, and how long to pause between two fetches. -/
structure PollPolicy where
  /-- The whole time. -/
  timeout : Duration
  interval : Duration
  deriving DecidableEq, Repr

namespace PollPolicy

/-- Half a minute with pauses of half a second. -/
def standard : PollPolicy := ⟨.ofSecs 30, .ofMillis 500⟩

/-- The policy with another time to wait. -/
def withTimeout (p : PollPolicy) (timeout : Duration) : PollPolicy := { p with timeout }

/-- The number of pauses that use up the whole time; where a pause takes none, time passes by at least
a nanosecond with every fetch. -/
def pauses (p : PollPolicy) : Nat :=
  let pause := p.interval.asleep.nanos
  if pause = 0 then p.timeout.nanos + 1 else p.timeout.nanos / pause + 1

end PollPolicy

/-! ## Searching -/

/-- A call of a search for an element of `α` to its surroundings. -/
inductive Lookout.Call (α : Type) where
  | fetch
  /-- Is the element accepted? -/
  | test (a : α)
  | elapsed
  | sleep (d : Duration)
  | note (n : Note)

abbrev Lookout.Answer (α : Type) : Lookout.Call α → Type
  | .fetch => Except Error (List α)
  | .test _ => Bool
  | .elapsed => Duration
  | .sleep _ => Unit
  | .note _ => Unit

/-- The surroundings of a search for an element of `α`. -/
def Lookout (α : Type) : Interface where
  Call := Lookout.Call α
  Answer := Lookout.Answer α

namespace Lookout

variable {α : Type}

instance : Offers (Lookout α) Journal where
  perform n := Program.call (I := Lookout α) (.note n)

def fetch : Attempt (Lookout α) (List α) :=
  .ofProgram (Program.call (I := Lookout α) .fetch)

def test (a : α) : Attempt (Lookout α) Bool :=
  ExceptT.lift (Program.call (I := Lookout α) (.test a))

/-- Reads the clock. -/
def elapsed : Attempt (Lookout α) Duration :=
  ExceptT.lift (Program.call (I := Lookout α) .elapsed)

def sleep (d : Duration) : Attempt (Lookout α) Unit :=
  ExceptT.lift (Program.call (I := Lookout α) (.sleep d))

end Lookout

namespace PollPolicy

variable {α : Type} (p : PollPolicy) (criteria : String)

/-- What is logged of an attempt that found nothing. -/
def attemptFields (attempts : UInt32) (elapsed : Duration) : List (String × Json) :=
  [("criteria", .text criteria), ("attempts", .nat attempts.toNat), ("elapsed", .text elapsed.text)]

/-- Gives up. -/
def expire (attempts : UInt32) (elapsed : Duration) : Attempt (Lookout α) α := do
  ExceptT.lift do
    log .debug "poll timed out" (attemptFields criteria attempts elapsed)
    count .poll .failure
  throw (.timeout criteria elapsed)

/-- Goes on with a search that began at `started`, makes its attempt number `attempts` and may pause
`left` more times. -/
def searchFrom (started : Duration) (left : Nat) (attempts : UInt32) : Attempt (Lookout α) α := do
  match ← (← Lookout.fetch).findM? Lookout.test with
  | some a =>
    ExceptT.lift (count .poll .success)
    return a
  | none =>
    let elapsed := (← Lookout.elapsed).sub started
    if p.timeout.nanos ≤ elapsed.nanos then expire criteria attempts elapsed
    else
      match left with
      | 0 => expire criteria attempts elapsed
      | left + 1 =>
        ExceptT.lift
          (log .trace "no match yet, retrying" (attemptFields criteria attempts elapsed))
        Lookout.sleep (p.interval.min (p.timeout.sub elapsed))
        searchFrom started left (attempts + 1)

/-- Waits for an element that is accepted; `criteria` says what is waited for. -/
def search : Attempt (Lookout α) α := do
  let started ← Lookout.elapsed
  searchFrom p criteria started p.pauses 1

end PollPolicy

/-! ## Polling -/

/-- A call of a poll to its surroundings. -/
inductive Watch.Call where
  | fetch
  | elapsed
  | sleep (d : Duration)
  | note (n : Note)

abbrev Watch.Answer (α : Type) : Watch.Call → Type
  | .fetch => Except Error (List α)
  | .elapsed => Duration
  | .sleep _ => Unit
  | .note _ => Unit

/-- The surroundings of a poll for elements of `α`. -/
def Watch (α : Type) : Interface where
  Call := Watch.Call
  Answer := Watch.Answer α

/-- Answers a call of a search in the surroundings of a poll; the elements that satisfy `accept` are
accepted. -/
def Watch.serve {α : Type} (accept : α → Bool) :
    (c : (Lookout α).Call) → Program (Watch α) ((Lookout α).Answer c)
  | .fetch => Program.call (I := Watch α) .fetch
  | .test a => pure (accept a)
  | .elapsed => Program.call (I := Watch α) .elapsed
  | .sleep d => Program.call (I := Watch α) (.sleep d.asleep)
  | .note n => Program.call (I := Watch α) (.note n)

/-- Waits for an element that satisfies `accept`; `criteria` says what is waited for. -/
def PollPolicy.poll {α : Type} (p : PollPolicy) (criteria : String) (accept : α → Bool) :
    Attempt (Watch α) α :=
  .ofProgram ((p.search criteria).run.interpret (Watch.serve accept))

end RealmSetup
