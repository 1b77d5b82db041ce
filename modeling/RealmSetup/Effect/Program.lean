/-!
# Programs over an interface

Everything this library does to its surroundings (an admin server, a mail server, a clock, a file
system) is a *call* of an `Interface`, and everything that makes calls is a `Program`: a tree that
either is done or makes one call and goes on with the answer.  Nothing runs by itself; a program is
given a meaning by `interpret`, which answers each call in a monad of the reader's choice.

Three readings are used throughout the library:

* a call answered by a state (`State` monads: an in-memory server, a script);
* a call answered by a program over another interface (a client over a transport);
* a call answered from the calls so far, which is the most general server there is.

Because programs are finite trees, what holds of every answer is proved by induction on them, and
`interpret_bind` carries sequencing through every reading.
-/

namespace RealmSetup

/-- The calls a program may make, with the type of the answer to each. -/
structure Interface where
  Call : Type
  Answer : Call → Type

namespace Interface

/-- The interface that offers the calls of both `I` and `J`. -/
abbrev both (I J : Interface) : Interface where
  Call := I.Call ⊕ J.Call
  Answer
    | .inl c => I.Answer c
    | .inr c => J.Answer c

end Interface

/-- A computation that makes calls of `I` and ends with a value. -/
inductive Program (I : Interface) (α : Type) : Type where
  /-- Nothing is left to do. -/
  | done (a : α)
  /-- Make the call `c` and go on with its answer. -/
  | ask (c : I.Call) (next : I.Answer c → Program I α)

namespace Program

variable {I J : Interface} {α β γ : Type}

/-! ## Sequencing -/

/-- Runs `p`, then the program that `f` gives for its value. -/
def bind : Program I α → (α → Program I β) → Program I β
  | .done a, f => f a
  | .ask c next, f => .ask c fun answer => (next answer).bind f

instance : Monad (Program I) where
  pure := .done
  bind := bind

/-- The program that makes one call and ends with its answer. -/
def call (c : I.Call) : Program I (I.Answer c) :=
  .ask c .done

@[simp] theorem done_bind (a : α) (f : α → Program I β) : (Program.done a >>= f) = f a :=
  rfl

@[simp] theorem ask_bind (c : I.Call) (next : I.Answer c → Program I α) (f : α → Program I β) :
    (Program.ask c next >>= f) = .ask c fun answer => next answer >>= f :=
  rfl

@[simp] theorem pure_eq_done (a : α) : (pure a : Program I α) = .done a :=
  rfl

theorem bind_done (p : Program I α) : (p >>= Program.done) = p := by
  induction p with
  | done a => rfl
  | ask c next ih => exact congrArg (Program.ask c) (funext ih)

theorem bind_assoc (p : Program I α) (f : α → Program I β) (g : β → Program I γ) :
    (p >>= f >>= g) = p >>= fun a => f a >>= g := by
  induction p with
  | done a => rfl
  | ask c next ih => exact congrArg (Program.ask c) (funext ih)

instance : LawfulMonad (Program I) :=
  LawfulMonad.mk' (Program I) (fun p => bind_done p) (fun _ _ => rfl) bind_assoc

/-! ## Readings -/

/-- Answers every call of a program by `answer`, in the monad `m`. -/
def interpret {m : Type → Type} [Monad m] (answer : (c : I.Call) → m (I.Answer c)) :
    Program I α → m α
  | .done a => pure a
  | .ask c next => answer c >>= fun a => interpret answer (next a)

section Laws

variable {m : Type → Type} [Monad m] (answer : (c : I.Call) → m (I.Answer c))

@[simp] theorem interpret_done (a : α) : interpret answer (.done a : Program I α) = pure a :=
  rfl

@[simp] theorem interpret_ask (c : I.Call) (next : I.Answer c → Program I α) :
    interpret answer (.ask c next) = answer c >>= fun a => interpret answer (next a) :=
  rfl

theorem interpret_bind [LawfulMonad m] (p : Program I α) (f : α → Program I β) :
    interpret answer (p >>= f) = interpret answer p >>= fun a => interpret answer (f a) := by
  induction p with
  | done a => simp
  | ask c next ih => simp only [ask_bind, interpret_ask, ih, LawfulMonad.bind_assoc]

theorem interpret_call [LawfulMonad m] (c : I.Call) : interpret answer (call c) = answer c := by
  simp [call]

end Laws

end Program

/-- Programs over `J` may make the calls of `I`. -/
class Offers (J I : Interface) where
  perform : (c : I.Call) → Program J (I.Answer c)

end RealmSetup
