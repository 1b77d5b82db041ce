import RealmSetup.Proofs.Effect.Evaluation

/-!
# The course of a program

`Program.eval` looks at the end of a run.  Two things about its course are needed besides.  `Makes` says
that every call a program may make satisfies a condition, so that two ways of answering which agree on
such calls lead to the same end (`eval_of_makes`).  `Along` says that every state passed through
satisfies an invariant, which is what remains to be known of a run that is broken off.

Most attempts are just a sequence of steps with notes in between, and what is known of the steps is known
of them.  `Attempt.Composed` says so once for every kind of step.
-/

namespace RealmSetup

namespace Program

variable {I : Interface} {α β σ τ : Type}

/-! ## The calls that are made -/

/-- Every call that a program may make, whatever it is answered, satisfies a condition. -/
def Makes (P : I.Call → Prop) : Program I α → Prop
  | .done _ => True
  | .ask c next => P c ∧ ∀ a, (next a).Makes P

theorem makes_bind {P : I.Call → Prop} {p : Program I α} {f : α → Program I β} (hp : p.Makes P)
    (hf : ∀ a, (f a).Makes P) : (p >>= f).Makes P := by
  induction p with
  | done a => exact hf a
  | ask c next ih => exact ⟨hp.1, fun a => ih a (hp.2 a)⟩

theorem makes_call {P : I.Call → Prop} {c : I.Call} (hc : P c) : (call c).Makes P :=
  ⟨hc, fun _ => trivial⟩

theorem Makes.mono {P Q : I.Call → Prop} {p : Program I α} (h : p.Makes P) (wider : ∀ c, P c → Q c) :
    p.Makes Q := by
  induction p with
  | done a => trivial
  | ask c next ih => exact ⟨wider c h.1, fun a => ih a (h.2 a)⟩

/-- A program that is read into another interface makes the calls that stand for its own. -/
theorem makes_interpret {J : Interface} {P : I.Call → Prop} {Q : J.Call → Prop}
    {read : (c : I.Call) → Program J (I.Answer c)} (calls : ∀ c, P c → (read c).Makes Q)
    {p : Program I α} (h : p.Makes P) : (p.interpret read).Makes Q := by
  induction p with
  | done a => trivial
  | ask c next ih => exact makes_bind (calls c h.1) fun a => ih a (h.2 a)

/-- Two ways of answering agree on a program if they agree, up to a view of the state, on every call
the program makes. -/
theorem eval_of_makes {P : I.Call → Prop} (first : Answering I σ) (second : Answering I τ)
    (view : σ → τ)
    (agree : ∀ c, P c → ∀ s, ((first c).run s).1 = ((second c).run (view s)).1 ∧
      view ((first c).run s).2 = ((second c).run (view s)).2)
    {p : Program I α} (hp : p.Makes P) (s : σ) :
    (p.eval first s).1 = (p.eval second (view s)).1 ∧
      view (p.eval first s).2 = (p.eval second (view s)).2 := by
  induction p generalizing s with
  | done a => exact ⟨rfl, rfl⟩
  | ask c next ih =>
    obtain ⟨same_answer, same_state⟩ := agree c hp.1 s
    have rest := ih ((first c).run s).1 (hp.2 _) ((first c).run s).2
    rw [same_state] at rest
    rw [eval_ask, eval_ask, ← same_answer]
    exact rest

/-! ## The states passed through -/

variable (answer : Answering I σ)

/-- What the answers to its calls keep is kept by a program. -/
theorem eval_keeps_of_makes {P : I.Call → Prop} {Inv : σ → Prop}
    (keeps : ∀ c, P c → ∀ s, Inv s → Inv ((answer c).run s).2) {p : Program I α} (hp : p.Makes P)
    {s : σ} (h : Inv s) : Inv (p.eval answer s).2 := by
  induction p generalizing s with
  | done a => exact h
  | ask c next ih => exact ih _ (hp.2 _) (keeps c hp.1 s h)

theorem makes_true (p : Program I α) : p.Makes fun _ => True := by
  induction p with
  | done a => trivial
  | ask c next ih => exact ⟨trivial, ih⟩

/-- What every answer keeps is kept by a program. -/
theorem eval_keeps {Inv : σ → Prop} (keeps : ∀ c s, Inv s → Inv ((answer c).run s).2)
    (p : Program I α) {s : σ} (h : Inv s) : Inv (p.eval answer s).2 :=
  eval_keeps_of_makes answer (fun c _ => keeps c) p.makes_true h

/-- Every state that a program passes through from a state on satisfies `Inv`, and `Q` holds of its
value and of the last state. -/
def Along (Inv : σ → Prop) (Q : α → σ → Prop) : Program I α → σ → Prop
  | .done a, s => Inv s ∧ Q a s
  | .ask c next, s => Inv s ∧ (next ((answer c).run s).1).Along Inv Q ((answer c).run s).2

variable {answer} {Inv Inv' : σ → Prop} {Q Q' : α → σ → Prop}

theorem Along.start {p : Program I α} {s : σ} (h : p.Along answer Inv Q s) : Inv s := by
  cases p with
  | done a => exact h.1
  | ask c next => exact h.1

theorem Along.mono {p : Program I α} {s : σ} (h : p.Along answer Inv Q s)
    (hInv : ∀ s, Inv s → Inv' s) (hQ : ∀ a s, Inv s → Q a s → Q' a s) :
    p.Along answer Inv' Q' s := by
  induction p generalizing s with
  | done a => exact ⟨hInv s h.1, hQ a s h.1 h.2⟩
  | ask c next ih => exact ⟨hInv s h.1, ih _ h.2⟩

theorem Along.ending {p : Program I α} {s : σ} (h : p.Along answer Inv Q s) :
    Inv (p.eval answer s).2 ∧ Q (p.eval answer s).1 (p.eval answer s).2 := by
  induction p generalizing s with
  | done a => exact h
  | ask c next ih => exact ih _ h.2

/-- Beside what is known of the end, the end is what the evaluation says. -/
theorem Along.eval {p : Program I α} {s : σ} (h : p.Along answer Inv Q s) :
    p.Along answer Inv (fun a s' => Q a s' ∧ p.eval answer s = (a, s')) s := by
  induction p generalizing s with
  | done a => exact ⟨h.1, h.2, rfl⟩
  | ask c next ih => exact ⟨h.1, ih _ h.2⟩

theorem along_bind {R : β → σ → Prop} {p : Program I α} {f : α → Program I β} {s : σ}
    (h : p.Along answer Inv (fun a s' => (f a).Along answer Inv R s') s) :
    (p >>= f).Along answer Inv R s := by
  induction p generalizing s with
  | done a => exact h.2
  | ask c next ih => exact ⟨h.1, ih _ h.2⟩

end Program

namespace Attempt

variable {I : Interface} {α β σ : Type} {answer : Answering I σ} {Inv : σ → Prop}

/-! ## The calls that are made -/

theorem makes_bind {P : I.Call → Prop} {w : Attempt I α} {f : α → Attempt I β} (hw : w.run.Makes P)
    (hf : ∀ a, (f a).run.Makes P) : (w >>= f).run.Makes P := by
  refine Program.makes_bind hw fun result => ?_
  cases result with
  | ok a => exact hf a
  | error e => trivial

/-- An observed step makes the calls of the step, and notes. -/
theorem makes_observe [Offers I Journal] {P : I.Call → Prop}
    (notes : ∀ n, (note (I := I) n).Makes P) {step : StepKind} {realm : String} {w : Attempt I α}
    (hw : w.run.Makes P) : (observe step realm w).run.Makes P := by
  refine Program.makes_bind (notes _) fun _ => Program.makes_bind (notes _) fun _ => ?_
  refine Program.makes_bind hw fun result => ?_
  cases result with
  | ok a => exact Program.makes_bind (notes _) fun _ => trivial
  | error e =>
    exact Program.makes_bind (notes _) fun _ => Program.makes_bind (notes _) fun _ => trivial

/-! ## The states passed through -/

/-- Every state that an attempt passes through from a state on satisfies `Inv`, and if it succeeds, `Q`
holds of its value and of the last state. -/
def Along (answer : Answering I σ) (Inv : σ → Prop) (Q : α → σ → Prop) (w : Attempt I α) (s : σ) :
    Prop :=
  Program.Along answer Inv (fun result s' => ∀ a, result = .ok a → Q a s') w.run s

theorem Along.mono {Inv' : σ → Prop} {Q Q' : α → σ → Prop} {w : Attempt I α} {s : σ}
    (h : Along answer Inv Q w s) (hInv : ∀ s, Inv s → Inv' s)
    (hQ : ∀ a s, Inv s → Q a s → Q' a s) : Along answer Inv' Q' w s :=
  Program.Along.mono h hInv fun _ s hs hq a ha => hQ a s hs (hq a ha)

theorem Along.eval {Q : α → σ → Prop} {w : Attempt I α} {s : σ} (h : Along answer Inv Q w s) :
    Along answer Inv (fun a s' => Q a s' ∧ eval answer w s = (.ok a, s')) w s := by
  refine Program.Along.mono (Program.Along.eval h) (fun _ hs => hs) ?_
  rintro _ s' - ⟨hq, hend⟩ a rfl
  exact ⟨hq a rfl, hend⟩

theorem along_pure {Q : α → σ → Prop} {a : α} {s : σ} (hs : Inv s) (hq : Q a s) :
    Along answer Inv Q (pure a) s := by
  refine ⟨hs, ?_⟩
  rintro _ ⟨⟩
  exact hq

theorem along_ofExcept {Q : α → σ → Prop} {r : Except Error α} {s : σ} (hs : Inv s)
    (hq : ∀ a, r = .ok a → Q a s) : Along answer Inv Q (ofExcept r) s :=
  ⟨hs, hq⟩

theorem along_throw {Q : α → σ → Prop} {e : Error} {s : σ} (hs : Inv s) :
    Along answer Inv Q (throw e) s := by
  refine ⟨hs, ?_⟩
  rintro _ ⟨⟩

theorem along_bind {R : β → σ → Prop} {w : Attempt I α} {f : α → Attempt I β} {s : σ}
    (h : Along answer Inv (fun a s' => Along answer Inv R (f a) s') w s) :
    Along answer Inv R (w >>= f) s := by
  refine Program.along_bind (Program.Along.mono h (fun _ hs => hs) ?_)
  intro result s' hs hq
  cases result with
  | ok a => exact hq a rfl
  | error e => exact ⟨hs, fun _ ha => nomatch ha⟩

/-- Where notes change nothing, an observed step takes the course of the step. -/
theorem along_observe [Offers I Journal] {Q : α → σ → Prop} {step : StepKind} {realm : String}
    {w : Attempt I α} {s : σ}
    (quiet : ∀ n s {P : Unit → σ → Prop}, Inv s → P () s →
      (note (I := I) n).Along answer Inv P s)
    (h : Along answer Inv Q w s) : Along answer Inv Q (observe step realm w) s := by
  have start : Inv s := Program.Along.start h
  refine Program.along_bind (quiet _ s start (Program.along_bind (quiet _ s start ?_)))
  refine Program.along_bind (Program.Along.mono h (fun _ hs => hs) ?_)
  intro result s' hs hq
  cases result with
  | ok a => exact Program.along_bind (quiet _ s' hs ⟨hs, hq⟩)
  | error e =>
    exact Program.along_bind (quiet _ s' hs (Program.along_bind (quiet _ s' hs ⟨hs, hq⟩)))

/-! ## Attempts that are put together from steps -/

section Composed

variable [Offers I Journal]

/-- An attempt that takes steps of a kind, one after the other up to the first that fails, with nothing
but notes and computations in between. -/
inductive Composed (Step : (β : Type) → Attempt I β → Prop) : {α : Type} → Attempt I α → Prop
  | step {α : Type} {w : Attempt I α} (h : Step α w) : Composed Step w
  | ofExcept {α : Type} (r : Except Error α) : Composed Step (ofExcept r)
  | log (level : LogLevel) (message : String) (fields : List (String × Json)) :
    Composed Step (ExceptT.lift (log level message fields))
  | bind {α β : Type} {w : Attempt I α} {f : α → Attempt I β} (hw : Composed Step w)
    (hf : ∀ a, Composed Step (f a)) : Composed Step (w >>= f)
  | observe {α : Type} {w : Attempt I α} (step : StepKind) (realm : String)
    (hw : Composed Step w) : Composed Step (observe step realm w)

variable {Step : (β : Type) → Attempt I β → Prop}

theorem composed_pure (a : α) : Composed Step (pure a : Attempt I α) :=
  .ofExcept (.ok a)

theorem composed_throw (e : Error) : Composed Step (throw e : Attempt I α) :=
  .ofExcept (.error e)

theorem Composed.map {w : Attempt I α} (hw : Composed Step w) (f : α → β) :
    Composed Step (f <$> w) := by
  rw [map_eq_pure_bind]
  exact .bind hw fun _ => composed_pure _

theorem Composed.forM {f : β → Attempt I PUnit} (hf : ∀ b, Composed Step (f b)) (bs : List β) :
    Composed Step (bs.forM f) := by
  induction bs with
  | nil => exact composed_pure _
  | cons b bs ih => exact .bind (hf b) fun _ => ih

/-- What is put together from steps of a kind is so from steps of a wider kind. -/
theorem Composed.mono {Step' : (β : Type) → Attempt I β → Prop} {w : Attempt I α}
    (h : Composed Step w) (wider : ∀ β w, Step β w → Step' β w) : Composed Step' w := by
  induction h with
  | step h => exact .step (wider _ _ h)
  | ofExcept r => exact .ofExcept r
  | log level message fields => exact .log level message fields
  | bind hw hf ihw ihf => exact .bind ihw ihf
  | observe step realm hw ih => exact .observe step realm ih

/-- Where notes and steps make only calls of a kind, so does what is put together from the steps. -/
theorem Composed.makes {P : I.Call → Prop} (notes : ∀ n, (note (I := I) n).Makes P)
    (steps : ∀ β (w : Attempt I β), Step β w → w.run.Makes P) {w : Attempt I α}
    (h : Composed Step w) : w.run.Makes P := by
  induction h with
  | step h => exact steps _ _ h
  | ofExcept r => trivial
  | log level message fields => exact Program.makes_bind (notes _) fun _ => trivial
  | bind hw hf ihw ihf => exact makes_bind ihw ihf
  | observe step realm hw ih => exact makes_observe notes ih

end Composed

end Attempt

end RealmSetup
