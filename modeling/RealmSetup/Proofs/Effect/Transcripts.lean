import RealmSetup.Proofs.Effect.Courses

/-!
# Transcripts

The most general surroundings of a program answer each call from everything that was called and answered
before; such a way of answering is a `Behaviour`.  What is called, and what it is answered with, is an
`Event`, and the events of a run are its transcript.  `Program.Takes` says which transcripts lead a
program to which value.  It does not mention the surroundings: whatever these are, the events that
happen are a transcript that the program takes (`takes_recorded`), so that what holds of all transcripts
holds under every behaviour.

Transcripts follow the structure of programs: that of a sequence falls into two (`takes_bind`), and a
program that is read into another interface twice may be read at once (`interpret_interpret`).
-/

namespace RealmSetup

/-- A call with its answer. -/
structure Event (I : Interface) where
  call : I.Call
  answer : I.Answer call

/-- A way of answering that may depend on all that happened before. -/
abbrev Behaviour (I : Interface) : Type :=
  (past : List (Event I)) → (c : I.Call) → I.Answer c

/-- Answers from what was recorded so far and goes on recording. -/
def Behaviour.recorded {I : Interface} (b : Behaviour I) : Answering I (List (Event I)) :=
  fun c past => (b past c, past ++ [⟨c, b past c⟩])

namespace Program

variable {I J K : Interface} {α β : Type}

/-! ## The transcripts of a program -/

/-- With these events a program ends, and with this value. -/
def Takes : Program I α → List (Event I) → α → Prop
  | .done a, events, b => events = [] ∧ b = a
  | .ask c next, events, b => ∃ answer rest, events = ⟨c, answer⟩ :: rest ∧ (next answer).Takes rest b

theorem takes_ask {c : I.Call} {next : I.Answer c → Program I α} {events : List (Event I)} {b : α} :
    (Program.ask c next).Takes events b ↔
      ∃ answer rest, events = ⟨c, answer⟩ :: rest ∧ (next answer).Takes rest b :=
  Iff.rfl

theorem takes_call {c : I.Call} {events : List (Event I)} {answer : I.Answer c} :
    (call c).Takes events answer ↔ events = [⟨c, answer⟩] := by
  constructor
  · rintro ⟨_, _, rfl, rfl, rfl⟩
    rfl
  · rintro rfl
    exact ⟨answer, [], rfl, rfl, rfl⟩

/-- The transcript of a sequence is that of the first program, followed by one of the second. -/
theorem takes_bind {p : Program I α} {f : α → Program I β} {events : List (Event I)} {b : β} :
    (p >>= f).Takes events b ↔
      ∃ first a second, events = first ++ second ∧ p.Takes first a ∧ (f a).Takes second b := by
  induction p generalizing events with
  | done a =>
    constructor
    · exact fun h => ⟨[], a, events, rfl, ⟨rfl, rfl⟩, h⟩
    · rintro ⟨_, _, _, rfl, ⟨rfl, rfl⟩, h⟩
      exact h
  | ask c next ih =>
    rw [ask_bind, takes_ask]
    constructor
    · rintro ⟨answer, rest, rfl, h⟩
      obtain ⟨first, a, second, rfl, hp, hf⟩ := (ih answer).1 h
      exact ⟨⟨c, answer⟩ :: first, a, second, rfl, ⟨answer, first, rfl, hp⟩, hf⟩
    · rintro ⟨_, a, second, rfl, ⟨answer, first, rfl, hp⟩, hf⟩
      exact ⟨answer, first ++ second, rfl, (ih answer).2 ⟨first, a, second, rfl, hp, hf⟩⟩

/-- What is recorded under a behaviour is a transcript of the program. -/
theorem takes_recorded (b : Behaviour I) (p : Program I α) (past : List (Event I)) :
    ∃ events, (p.eval b.recorded past).2 = past ++ events ∧
      p.Takes events (p.eval b.recorded past).1 := by
  induction p generalizing past with
  | done a => exact ⟨[], (List.append_nil past).symm, rfl, rfl⟩
  | ask c next ih =>
    obtain ⟨events, recorded, takes⟩ := ih (b past c) (past ++ [⟨c, b past c⟩])
    refine ⟨⟨c, b past c⟩ :: events, ?_, b past c, events, rfl, takes⟩
    rw [eval_ask, List.append_cons]
    exact recorded

/-- Whatever is recorded under a behaviour is an answer of that behaviour. -/
theorem answer_of_mem_recorded (b : Behaviour I) (p : Program I α) {past : List (Event I)}
    {e : Event I} (h : e ∈ (p.eval b.recorded past).2) (new : e ∉ past) :
    ∃ before, e.answer = b before e.call := by
  induction p generalizing past with
  | done a => exact absurd h new
  | ask c next ih =>
    by_cases first : e = ⟨c, b past c⟩
    · exact ⟨past, by rw [first]⟩
    · exact ih _ h (by simp [new, first])

/-! ## Reading programs into programs -/

/-- To read a program into a second interface and on into a third is to read it into the third. -/
theorem interpret_interpret (first : (c : I.Call) → Program J (I.Answer c))
    (second : (c : J.Call) → Program K (J.Answer c)) (p : Program I α) :
    (p.interpret first).interpret second = p.interpret fun c => (first c).interpret second := by
  induction p with
  | done a => rfl
  | ask c next ih => simp only [interpret_ask, interpret_bind, ih]

/-- The transcript of a sequence that was read into another interface. -/
theorem takes_interpret_bind {read : (c : I.Call) → Program J (I.Answer c)} {p : Program I α}
    {f : α → Program I β} {events : List (Event J)} {b : β} :
    ((p >>= f).interpret read).Takes events b ↔
      ∃ first a second, events = first ++ second ∧ (p.interpret read).Takes first a ∧
        ((f a).interpret read).Takes second b := by
  rw [interpret_bind, takes_bind]

/-- A program whose calls stand for themselves is the program. -/
theorem interpret_self (p : Program I α) : p.interpret (fun c => call c) = p := by
  induction p with
  | done a => rfl
  | ask c next ih => exact congrArg (Program.ask c) (funext ih)

end Program

namespace Attempt

variable {I J : Interface} {α β : Type}

/-- A sequence of attempts is read one after the other, up to the first error. -/
theorem interpret_bind (read : (c : I.Call) → Program J (I.Answer c)) (w : Attempt I α)
    (f : α → Attempt I β) :
    (w >>= f).run.interpret read =
      w.run.interpret read >>= fun
        | .ok a => (f a).run.interpret read
        | .error e => pure (.error e) := by
  rw [ExceptT.run_bind, Program.interpret_bind]
  refine bind_congr fun result => ?_
  cases result <;> rfl

end Attempt

end RealmSetup
