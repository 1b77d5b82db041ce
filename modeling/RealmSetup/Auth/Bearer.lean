import RealmSetup.Web.Host

/-!
# Where tokens come from

A client never holds a token: right before each request it asks for one, and when a token is refused
it has it dropped, so that the next one is fresh.
-/

namespace RealmSetup

/-- A call to a source of tokens. -/
inductive Bearer.Call where
  | get
  /-- Drops a token that is kept. -/
  | drop

/-- What a call to a source of tokens is answered with. -/
abbrev Bearer.Answer : Bearer.Call → Type
  | .get => Except Error Secret
  | .drop => Unit

/-- A source of tokens. -/
def Bearer : Interface where
  Call := Bearer.Call
  Answer := Bearer.Answer

/-- The surroundings of a client that sends tokens. -/
abbrev Site : Interface := Bearer.both Host

instance : Offers Site Host where
  perform c := Program.call (I := Site) (.inr c)

instance : Offers Site Bearer where
  perform c := Program.call (I := Site) (.inl c)

instance : Offers Site Journal where
  perform n := Program.call (I := Site) (.inr (.note n))

def bearerToken : Attempt Site Secret :=
  .ofProgram (Program.call (I := Site) (.inl .get))

def dropToken : Attempt Site Unit :=
  ExceptT.lift (Program.call (I := Site) (.inl .drop))

/-- A token that was got elsewhere and is never renewed. -/
structure StaticToken where
  secret : Secret

namespace StaticToken

def serve (t : StaticToken) : (c : Bearer.Call) → Bearer.Answer c
  | .get => .ok t.secret
  | .drop => ()

def debug (t : StaticToken) : String := "StaticTokenSource(" ++ t.secret.debug ++ ")"

end StaticToken

end RealmSetup
