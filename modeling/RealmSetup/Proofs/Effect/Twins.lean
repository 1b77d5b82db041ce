import Mathlib.Data.List.Forall2
import RealmSetup.Proofs.Effect.Transcripts

/-!
# Programs that go alike

Two programs go alike when they make corresponding calls, one for one, and end correspondingly, as long
as their calls are answered correspondingly (`Program.Twins`).  Which calls correspond, and which answers
to them, is a `Pairing`.  Whatever is paired is hidden: if two behaviours answer paired calls by paired
answers, the runs of such programs cannot be told apart but by what pairing lets differ
(`Program.Twins.recorded`).

There is one rule for each way in which programs and attempts are put together.
-/

namespace RealmSetup

/-- Which calls correspond to each other, and which answers to them. -/
abbrev Pairing (I : Interface) : Type :=
  (c c' : I.Call) → (I.Answer c → I.Answer c' → Prop) → Prop

namespace Pairing

variable {I J : Interface}

/-- Every call corresponds to itself, with the same answer. -/
inductive Same : Pairing I
  | same (c : I.Call) : Same c c Eq

/-- Calls of two interfaces correspond where they do for one of these. -/
inductive Both (R : Pairing I) (S : Pairing J) : Pairing (I.both J)
  | inl {c c' : I.Call} {A : I.Answer c → I.Answer c' → Prop} (h : R c c' A) :
    Both R S (.inl c) (.inl c') A
  | inr {c c' : J.Call} {A : J.Answer c → J.Answer c' → Prop} (h : S c c' A) :
    Both R S (.inr c) (.inr c') A

/-- Two events are corresponding calls with corresponding answers. -/
inductive Matches (R : Pairing I) : Event I → Event I → Prop
  | intro {c c' : I.Call} {A : I.Answer c → I.Answer c' → Prop} (h : R c c' A) {x : I.Answer c}
    {y : I.Answer c'} (answered : A x y) : Matches R ⟨c, x⟩ ⟨c', y⟩

end Pairing

/-- Two endings are successes with corresponding values or failures with one error. -/
inductive Alike {ε α β : Type} (V : α → β → Prop) : Except ε α → Except ε β → Prop
  | ok {a : α} {b : β} (h : V a b) : Alike V (.ok a) (.ok b)
  | error (e : ε) : Alike V (.error e) (.error e)

theorem Alike.mono {ε α β : Type} {V V' : α → β → Prop} {r : Except ε α} {r' : Except ε β}
    (h : Alike V r r') (wider : ∀ a b, V a b → V' a b) : Alike V' r r' := by
  cases h with
  | ok h => exact .ok (wider _ _ h)
  | error e => exact .error e

theorem alike_eq_iff {ε α : Type} {r r' : Except ε α} : Alike Eq r r' ↔ r = r' := by
  constructor
  · rintro (⟨⟨⟩⟩ | _) <;> rfl
  · rintro rfl
    cases r with
    | ok a => exact .ok rfl
    | error e => exact .error e

namespace Program

variable {I J : Interface} {R : Pairing I} {α α' β β' : Type}

/-- Two programs make corresponding calls and end correspondingly. -/
inductive Twins (R : Pairing I) {α β : Type} (V : α → β → Prop) : Program I α → Program I β → Prop
  | done {a : α} {b : β} (h : V a b) : Twins R V (.done a) (.done b)
  | ask {c c' : I.Call} {A : I.Answer c → I.Answer c' → Prop} {next : I.Answer c → Program I α}
    {next' : I.Answer c' → Program I β} (h : R c c' A)
    (rest : ∀ x y, A x y → Twins R V (next x) (next' y)) : Twins R V (.ask c next) (.ask c' next')

variable {V : α → β → Prop} {W : α' → β' → Prop}

theorem twins_call {c c' : I.Call} {A : I.Answer c → I.Answer c' → Prop} (h : R c c' A) :
    Twins R A (call c) (call c') :=
  .ask h fun _ _ => .done

/-- Corresponding calls of the first of two interfaces. -/
theorem twins_inl {S : Pairing J} {c c' : I.Call} {A : I.Answer c → I.Answer c' → Prop}
    (h : R c c' A) :
    Twins (R.Both S) A (call (I := I.both J) (.inl c)) (call (I := I.both J) (.inl c')) :=
  twins_call (R := R.Both S) (.inl h)

/-- Corresponding calls of the second of two interfaces. -/
theorem twins_inr {S : Pairing J} {c c' : J.Call} {A : J.Answer c → J.Answer c' → Prop}
    (h : S c c' A) :
    Twins (R.Both S) A (call (I := I.both J) (.inr c)) (call (I := I.both J) (.inr c')) :=
  twins_call (R := R.Both S) (.inr h)

theorem Twins.mono {V' : α → β → Prop} {p : Program I α} {p' : Program I β} (h : Twins R V p p')
    (wider : ∀ a b, V a b → V' a b) : Twins R V' p p' := by
  induction h with
  | done h => exact .done (wider _ _ h)
  | ask h rest ih => exact .ask h ih

/-- The rule for a sequence. -/
theorem Twins.bind {p : Program I α} {p' : Program I β} {f : α → Program I α'}
    {f' : β → Program I β'} (h : Twins R V p p') (hf : ∀ a b, V a b → Twins R W (f a) (f' b)) :
    Twins R W (p >>= f) (p' >>= f') := by
  induction h with
  | done h => exact hf _ _ h
  | ask h rest ih => exact .ask h ih

/-- A program goes like itself if its calls correspond to themselves. -/
theorem twins_of_makes {P : I.Call → Prop} (same : ∀ c, P c → R c c Eq) {p : Program I α}
    (h : p.Makes P) : Twins R Eq p p := by
  induction p with
  | done a => exact .done rfl
  | ask c next ih =>
    refine .ask (same c h.1) ?_
    rintro answer _ rfl
    exact ih answer (h.2 answer)

/-- Programs that go alike go alike in another interface, if corresponding calls do. -/
theorem Twins.interpret {S : Pairing J} {read read' : (c : I.Call) → Program J (I.Answer c)}
    (calls : ∀ {c c' A}, R c c' A → Twins S A (read c) (read' c')) {p : Program I α}
    {p' : Program I β} (h : Twins R V p p') :
    Twins S V (p.interpret read) (p'.interpret read') := by
  induction h with
  | done h => exact .done h
  | ask h rest ih => exact (calls h).bind ih

/-- Behaviours that answer corresponding calls correspondingly, as long as they have done so, make
corresponding runs of programs that go alike. -/
theorem Twins.recorded {b b' : Behaviour I}
    (answers : ∀ {past past' c c' A}, List.Forall₂ R.Matches past past' → R c c' A →
      A (b past c) (b' past' c'))
    {p : Program I α} {p' : Program I β} (h : Twins R V p p') {past past' : List (Event I)}
    (before : List.Forall₂ R.Matches past past') :
    V (p.eval b.recorded past).1 (p'.eval b'.recorded past').1 ∧
      List.Forall₂ R.Matches (p.eval b.recorded past).2 (p'.eval b'.recorded past').2 := by
  induction h generalizing past past' with
  | done h => exact ⟨h, before⟩
  | ask h rest ih =>
    have answered := answers before h
    exact ih _ _ answered (List.rel_append before (.cons (.intro h answered) .nil))

end Program

namespace Attempt

variable {I : Interface} {R : Pairing I} {α α' β β' : Type} {V : α → β → Prop} {W : α' → β' → Prop}

/-- Two attempts make corresponding calls and come to corresponding endings. -/
abbrev Twins (R : Pairing I) (V : α → β → Prop) (w : Attempt I α) (w' : Attempt I β) : Prop :=
  Program.Twins R (Alike V) w.run w'.run

theorem twins_pure {a : α} {b : β} (h : V a b) : Twins R V (pure a) (pure b) :=
  .done (.ok h)

theorem twins_throw (e : Error) : Twins R V (throw e) (throw e) :=
  .done (.error e)

theorem twins_ofExcept (r : Except Error α) : Twins R Eq (ofExcept r) (ofExcept r) :=
  .done (alike_eq_iff.2 rfl)

theorem Twins.bind {w : Attempt I α} {w' : Attempt I β} {f : α → Attempt I α'}
    {f' : β → Attempt I β'} (h : Twins R V w w') (hf : ∀ a b, V a b → Twins R W (f a) (f' b)) :
    Twins R W (w >>= f) (w' >>= f') := by
  refine Program.Twins.bind h ?_
  rintro _ _ (⟨h⟩ | e)
  · exact hf _ _ h
  · exact .done (.error e)

/-- An attempt goes like itself if its calls correspond to themselves. -/
theorem twins_of_makes {P : I.Call → Prop} (same : ∀ c, P c → R c c Eq) {w : Attempt I α}
    (h : w.run.Makes P) : Twins R Eq w w :=
  (Program.twins_of_makes same h).mono fun _ _ => alike_eq_iff.2

theorem twins_lift {p : Program I α} {p' : Program I β} (h : Program.Twins R V p p') :
    Twins R V (ExceptT.lift p) (ExceptT.lift p') :=
  h.bind fun _ _ h => .done (.ok h)

/-- What is observed of a step are notes, which correspond to themselves. -/
theorem Twins.observe [Offers I Journal]
    (notes : ∀ n, Program.Twins R Eq (note (I := I) n) (note n)) {w : Attempt I α} {w' : Attempt I β}
    (h : Twins R V w w') (step : StepKind) (realm : String) :
    Twins R V (RealmSetup.observe step realm w) (RealmSetup.observe step realm w') := by
  refine (notes _).bind fun _ _ _ => (notes _).bind fun _ _ _ => Program.Twins.bind h ?_
  rintro _ _ (⟨h⟩ | e)
  · exact (notes _).bind fun _ _ _ => .done (.ok h)
  · exact (notes _).bind fun _ _ _ => (notes _).bind fun _ _ _ => .done (.error e)

end Attempt

end RealmSetup
