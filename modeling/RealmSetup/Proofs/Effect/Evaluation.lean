import RealmSetup.Effect.Attempt
import RealmSetup.Step

/-!
# Programs run from a state

`Program.interpret` reads a program in any monad.  Here the monad is that of a state: an
`Answering` says what each call is answered with and which state it leaves behind, and `Program.eval`
is the value of a program together with the last state.  `eval_bind` carries sequencing through it, and
`Attempt.eval_bind` does the same for attempts, which stop at their first error.

Two interfaces offered together are answered side by side (`Answering.beside`), each from a state of its
own, and a program that makes the calls of one of them leaves the state of the other as it was.
-/

namespace RealmSetup

theorem exists_of_isOk {ε α : Type} {x : Except ε α} (ok : x.isOk = true) : ∃ a, x = .ok a := by
  cases x with
  | error e => cases ok
  | ok a => exact ⟨a, rfl⟩

/-- Answers to the calls of an interface, given from a state. -/
abbrev Answering (I : Interface) (σ : Type) : Type := (c : I.Call) → StateM σ (I.Answer c)

namespace Program

variable {I : Interface} {α β σ : Type} (answer : Answering I σ)

/-- The value of a program, and the state it leaves, when its calls are answered from a state. -/
def eval (p : Program I α) (s : σ) : α × σ := (p.interpret answer).run s

@[simp] theorem eval_done (a : α) (s : σ) : (Program.done a : Program I α).eval answer s = (a, s) :=
  rfl

@[simp] theorem eval_pure (a : α) (s : σ) : (pure a : Program I α).eval answer s = (a, s) :=
  rfl

@[simp] theorem eval_ask (c : I.Call) (next : I.Answer c → Program I α) (s : σ) :
    (Program.ask c next).eval answer s
      = (next ((answer c).run s).1).eval answer ((answer c).run s).2 :=
  rfl

@[simp] theorem eval_call (c : I.Call) (s : σ) : (call c).eval answer s = (answer c).run s :=
  rfl

theorem eval_bind (p : Program I α) (f : α → Program I β) (s : σ) :
    (p >>= f).eval answer s = (f (p.eval answer s).1).eval answer (p.eval answer s).2 := by
  simp only [eval, interpret_bind]
  rfl

@[simp] theorem eval_map (f : α → β) (p : Program I α) (s : σ) :
    (f <$> p).eval answer s = (f (p.eval answer s).1, (p.eval answer s).2) := by
  rw [map_eq_pure_bind, eval_bind]
  rfl

/-- To evaluate a program that is read into another interface is to evaluate it with each call answered
by what it is read as. -/
theorem eval_interpret {J : Interface} (read : (c : J.Call) → Program I (J.Answer c))
    (p : Program J α) (s : σ) :
    (p.interpret read).eval answer s = p.eval (fun c => (read c).eval answer) s := by
  induction p generalizing s with
  | done a => rfl
  | ask c next ih => rw [interpret_ask, eval_bind, ih, eval_ask]; rfl

end Program

namespace Attempt

variable {I : Interface} {α β σ : Type} (answer : Answering I σ)

/-- The ending of an attempt, and the state it leaves, when its calls are answered from a state. -/
def eval (w : Attempt I α) (s : σ) : Except Error α × σ := Program.eval answer w.run s

@[simp] theorem eval_pure (a : α) (s : σ) : eval answer (pure a : Attempt I α) s = (.ok a, s) :=
  rfl

@[simp] theorem eval_throw (e : Error) (s : σ) :
    eval answer (throw e : Attempt I α) s = (.error e, s) :=
  rfl

@[simp] theorem eval_ofExcept (r : Except Error α) (s : σ) :
    eval answer (ofExcept r) s = (r, s) :=
  rfl

@[simp] theorem eval_ofProgram (p : Program I (Except Error α)) (s : σ) :
    eval answer (ofProgram p) s = p.eval answer s :=
  rfl

@[simp] theorem eval_lift (p : Program I α) (s : σ) :
    eval answer (ExceptT.lift p) s = (.ok (p.eval answer s).1, (p.eval answer s).2) :=
  Program.eval_map answer Except.ok p s

theorem eval_bind (w : Attempt I α) (f : α → Attempt I β) (s : σ) :
    eval answer (w >>= f) s =
      match eval answer w s with
      | (.ok a, s') => eval answer (f a) s'
      | (.error e, s') => (.error e, s') := by
  simp only [eval, ExceptT.run_bind, Program.eval_bind]
  cases Program.eval answer w.run s with
  | mk result s' => cases result <;> rfl

theorem eval_bind_ok {w : Attempt I α} {f : α → Attempt I β} {s s' : σ} {a : α}
    (h : eval answer w s = (.ok a, s')) : eval answer (w >>= f) s = eval answer (f a) s' := by
  rw [eval_bind, h]

theorem eval_bind_error {w : Attempt I α} {f : α → Attempt I β} {s s' : σ} {e : Error}
    (h : eval answer w s = (.error e, s')) : eval answer (w >>= f) s = (.error e, s') := by
  rw [eval_bind, h]

end Attempt

/-! ## Interfaces side by side -/

namespace Answering

variable {I J : Interface} {α σ τ : Type}

/-- Answers the calls of two interfaces, each from its own part of a state. -/
def beside (first : Answering I τ) (second : Answering J σ) : Answering (I.both J) (τ × σ)
  | .inl c => fun s => (((first c).run s.1).1, ((first c).run s.1).2, s.2)
  | .inr c => fun s => (((second c).run s.2).1, s.1, ((second c).run s.2).2)

variable (first : Answering I τ) (second : Answering J σ)

@[simp] theorem run_beside_inl (c : I.Call) (t : τ) (s : σ) :
    (beside first second (.inl c)).run (t, s) =
      (((first c).run t).1, ((first c).run t).2, s) :=
  rfl

@[simp] theorem run_beside_inr (c : J.Call) (t : τ) (s : σ) :
    (beside first second (.inr c)).run (t, s) =
      (((second c).run s).1, t, ((second c).run s).2) :=
  rfl

/-- A program that makes calls of the first interface only leaves the second part of the state. -/
theorem eval_interpret_inl (p : Program I α) (t : τ) (s : σ) :
    (p.interpret fun c => Program.call (I := I.both J) (.inl c)).eval (beside first second) (t, s) =
      ((p.eval first t).1, (p.eval first t).2, s) := by
  induction p generalizing t with
  | done a => rfl
  | ask c next ih => exact ih ((first c).run t).1 ((first c).run t).2

end Answering

/-! ## Observed steps -/

section Observed

variable {I : Interface} [Offers I Journal] {α σ : Type} (answer : Answering I σ)

/-- Where notes change nothing, an observed step does what the step does. -/
theorem Attempt.eval_observe (quiet : ∀ n s, (note (I := I) n).eval answer s = ((), s))
    (step : StepKind) (realm : String) (w : Attempt I α) (s : σ) :
    Attempt.eval answer (observe step realm w) s = Attempt.eval answer w s := by
  simp only [Attempt.eval, observe, count, ExceptT.run_mk, Program.eval_bind, quiet]
  cases Program.eval answer w.run s with
  | mk result s' => cases result <;> simp [Program.eval_bind, quiet]

end Observed

end RealmSetup
