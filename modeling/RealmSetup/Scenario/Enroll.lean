import RealmSetup.Realm

/-!
# Enrolling a second factor

An enroller gives a user a second factor and yields the seed of its codes.  `credentialEnroller` writes
the credential itself and then takes the request to set one up off the user; `knownSeeds` has nothing to
do, because the users have their second factor already.
-/

namespace RealmSetup

/-- The required action that has a user set up time-based codes. -/
def configureTotp : String := "CONFIGURE_TOTP"

/-- Enrolls a user, given by realm, identifier and name, and yields the seed. -/
abbrev Enroller : Type := (realm userId username : String) → SiteAttempt Secret

namespace Seed

def alphabet : List Char := "ABCDEFGHIJKLMNOPQRSTUVWXYZ234567".toList

/-- The character of seeds at a place. -/
def charAt (n : Nat) : Char := alphabet.getD (n % 32) 'A'

def length : Nat := 32

/-- Some of the lowest digits of a number in base 32. -/
def digits (n : Nat) : Nat → List Char
  | 0 => []
  | count + 1 => charAt n :: digits (n / 32) count

def ofNumber (n : Nat) : Secret := ⟨String.ofList (digits n length)⟩

def draw : Program Site Secret := do
  let n : Nat ← Offers.perform (I := Host) .drawSeed
  return ofNumber n

end Seed

/-- Enrolls users by writing their credentials. -/
def credentialEnroller (admin : AdminClient) : Enroller := fun realm userId username => do
  let seed ← ExceptT.lift Seed.draw
  observe .enroll realm do
    admin.putOtpCredential realm userId seed
    Provisioner.removeUserRequiredAction admin realm userId configureTotp
    ExceptT.lift
      (log .debug "second factor enrolled" [("realm", .text realm), ("username", .text username)])
    return seed

/-- Yields the seeds of users that are enrolled already, by their names. -/
def knownSeeds (seeds : KeyMap String) : Enroller := fun realm userId username =>
  match seeds.get? username with
  | some seed => return ⟨seed⟩
  | none => throw (.missingValue ("seed " ++ realm ++ "/" ++ userId ++ "/" ++ username))

end RealmSetup
