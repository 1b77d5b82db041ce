import RealmSetup.Secret
import RealmSetup.Time.Duration
import RealmSetup.Time.Instant

/-!
# Tokens of an administrator

A token is good from the instant it was issued to the instant it expires.  It is renewed a little
before that, when what is left of its life lies within a window.
-/

namespace RealmSetup

/-- A token of an administrator. -/
structure AdminToken where
  /-- What a request carries. -/
  secret : Secret
  issuedAt : Instant
  /-- From when on it must not be used. -/
  expiresAt : Instant

namespace AdminToken

/-- The life of a token that comes without one: a minute. -/
def fallbackLifetime : Int := 60 * 1000000000

/-- The life, in nanoseconds, of a token that comes with a lifetime or without.  One that is not
positive counts for nothing. -/
def effectiveLifetime (lifetime : Option Int) : Int :=
  match lifetime with
  | some l => if 0 < l then l else fallbackLifetime
  | none => fallbackLifetime

/-- The token issued at an instant with a lifetime in nanoseconds, if its end lies within the
calendar. -/
def issue? (secret : Secret) (issuedAt : Instant) (lifetime : Option Int) : Option AdminToken :=
  (issuedAt.add? (effectiveLifetime lifetime)).map fun expiresAt => ⟨secret, issuedAt, expiresAt⟩

/-- Whether a token must not be used any more. -/
def isExpiredAt (t : AdminToken) (now : Instant) : Bool :=
  t.expiresAt.nanos ≤ now.nanos

/-- Whether a token is to be renewed: it has expired or will within a window of nanoseconds. -/
def needsRefresh (t : AdminToken) (now : Instant) (window : Int) : Bool :=
  t.isExpiredAt now || t.expiresAt.nanos - now.nanos ≤ window

/-- The beginning of the text of a token for developers; the instants follow. -/
def debugHead (t : AdminToken) : String :=
  "AdminToken \x7b access_token: \"" ++ t.secret.display ++ "\""

end AdminToken

end RealmSetup
