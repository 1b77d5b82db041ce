import RealmSetup.Auth.Grant
import RealmSetup.Proofs.Admin.Calls
import RealmSetup.Proofs.Effect.Twins

/-!
# Grants for different passwords

Two sources of tokens that differ in their passwords alone go alike: the password stands in the body of
the request for a grant and nowhere else, and what is made of the reply does not look at it
(`Grant.twins_serve`).  `Veiled` pairs such requests, and beside them the other ones that hold a secret:
those that store a credential, and the seeds that are drawn.
-/

namespace RealmSetup

/-- The same grant for another password. -/
def Grant.withPassword (g : Grant) (password : Secret) : Grant := { g with password }

/-- Calls that differ in secrets at most.  A password shows in the body of a grant alone and a seed in the
body of a request that stores a credential; the seeds that are drawn may differ, but no other answer. -/
inductive Veiled (g : Grant) (password : Secret) : Pairing Host
  | same (c : Host.Call) (h : c ≠ .drawSeed) : Veiled g password c c Eq
  | grant : Veiled g password (.exchange g.request) (.exchange (g.withPassword password).request)
      fun (x y : Except String Reply) => x = y
  | credential (c : AdminClient) (realm userId : String) (n : Nat) (seed seed' token : Secret) :
    Veiled g password
      (.exchange ((AdminCall.putOtpCredential c realm userId seed n).request.signed token))
      (.exchange ((AdminCall.putOtpCredential c realm userId seed' n).request.signed token))
      fun (x y : Except String Reply) => x = y
  | seed : Veiled g password .drawSeed .drawSeed fun _ _ => True

namespace Grant

variable {g : Grant} {password : Secret} {α α' β β' : Type} {V : α → β → Prop} {W : α' → β' → Prop}

/-! ## Computations on what is kept -/

/-- Two computations on what is kept go alike and keep the same. -/
def Keeping.Twins (g : Grant) (password : Secret) (V : α → β → Prop) (m : Keeping α) (m' : Keeping β) :
    Prop :=
  ∀ kept, Program.Twins (Veiled g password)
    (Alike fun (x : α × Option AdminToken) (y : β × Option AdminToken) => V x.1 y.1 ∧ x.2 = y.2)
    (m kept).run (m' kept).run

theorem twins_pure {a : α} {b : β} (h : V a b) : Keeping.Twins g password V (pure a) (pure b) :=
  fun _ => .done (.ok ⟨h, rfl⟩)

theorem twins_get : Keeping.Twins g password Eq get get :=
  fun _ => .done (.ok ⟨rfl, rfl⟩)

theorem twins_set (t : Option AdminToken) : Keeping.Twins g password Eq (set t) (set t) :=
  fun _ => .done (.ok ⟨rfl, rfl⟩)

theorem twins_overflow : Keeping.Twins g password V overflow overflow :=
  fun _ => .done (.error _)

theorem twins_ask {c c' : Host.Call} {A : Host.Answer c → Host.Answer c' → Prop}
    (h : Veiled g password c c' A) : Keeping.Twins g password A (ask c) (ask c') :=
  fun _ => .ask h fun _ _ answered => .done (.ok ⟨answered, rfl⟩)

theorem Keeping.Twins.bind {m : Keeping α} {m' : Keeping β} {f : α → Keeping α'} {f' : β → Keeping β'}
    (h : Keeping.Twins g password V m m')
    (hf : ∀ a b, V a b → Keeping.Twins g password W (f a) (f' b)) :
    Keeping.Twins g password W (m >>= f) (m' >>= f') := by
  intro kept
  refine Program.Twins.bind (h kept) ?_
  rintro _ _ (⟨answered, same⟩ | o)
  · rename_i x y
    obtain ⟨a, kept'⟩ := x
    obtain ⟨b, kept''⟩ := y
    obtain rfl : kept' = kept'' := same
    exact hf a b answered kept'
  · exact .done (.error o)

/-! ## Grants -/

/-- What is made of the reply to a grant does not look at the password. -/
theorem twins_fetch : Keeping.Twins g password Eq g.fetch (g.withPassword password).fetch := by
  refine (twins_ask (.same .now nofun)).bind ?_
  rintro issuedAt _ rfl
  refine (twins_ask .grant).bind ?_
  rintro answer _ rfl
  cases answer with
  | error cause => exact twins_pure rfl
  | ok reply =>
    dsimp only
    cases read reply with
    | error e => exact twins_pure rfl
    | ok granted =>
      refine (twins_ask (.same (.note _) nofun)).bind fun _ _ _ => ?_
      cases AdminToken.issue? granted.accessToken issuedAt granted.lifetime with
      | some token => exact twins_pure rfl
      | none => exact twins_overflow

theorem twins_access : Keeping.Twins g password Eq g.access (g.withPassword password).access := by
  refine (twins_ask (.same .now nofun)).bind ?_
  rintro now _ rfl
  refine twins_get.bind ?_
  rintro kept _ rfl
  have window : (g.withPassword password).refreshWindow = g.refreshWindow := rfl
  rw [window]
  cases kept.filter fun t => !t.needsRefresh now g.refreshWindow.nanos with
  | some token => exact twins_pure rfl
  | none =>
    refine twins_fetch.bind ?_
    rintro fetched _ rfl
    cases fetched with
    | error e => exact twins_pure rfl
    | ok token => exact (twins_set _).bind fun _ _ _ => twins_pure rfl

/-- Two sources of tokens that differ in their passwords go alike. -/
theorem twins_serve (c : Bearer.Call) :
    Keeping.Twins g password Eq (g.serve c) ((g.withPassword password).serve c) := by
  cases c with
  | get => exact twins_access
  | drop => exact twins_set none

end Grant

end RealmSetup
