import RealmSetup.KeyMap
import RealmSetup.Mail.Code
import RealmSetup.Time.Duration

/-!
# Settings of the code by mail

The authenticator that mails one-time codes takes its settings as a map of texts.  `OtpSettings.toMap`
writes every setting that is given under keys of its own: what is not given leaves no key, so that the
authenticator's default applies.
-/

namespace RealmSetup

/-- Whether a place is trusted for some time after a code was entered there. -/
inductive Trust where
  /-- As the authenticator has it. -/
  | unset
  /-- Never. -/
  | disabled
  /-- For a number of units of time, which are minutes or days. -/
  | enabled (duration : UInt32)
  deriving DecidableEq, Repr

/-- Writes a setting of trust. -/
def Trust.write (name : String) (m : KeyMap String) : Trust → KeyMap String
  | .unset => m
  | .disabled => m.insert (name ++ "-enabled") "false"
  | .enabled duration =>
    (m.insert (name ++ "-enabled") "true").insert (name ++ "-duration") (toString duration.toNat)

/-- Settings of the authenticator that mails codes. -/
structure OtpSettings where
  /-- The role of the users that need a code; all do if none is given. -/
  userRole : Option String
  /-- The characters that codes are made of. -/
  alphabet : String
  length : UInt32
  /-- How many seconds codes are good for. -/
  lifetimeSecs : UInt64
  /-- Whether network addresses are trusted, in minutes. -/
  ipTrust : Trust
  /-- Whether devices are trusted, in days. -/
  deviceTrust : Trust
  /-- Whether trust counts only when the code is the only second factor of the user. -/
  trustOnlyWhenSole : Option Bool
  deriving DecidableEq, Repr

namespace OtpSettings

/-- Codes of six characters that are good for ten minutes, with nothing else set. -/
def standard : OtpSettings where
  userRole := none
  alphabet := Code.defaultAlphabet
  length := 6
  lifetimeSecs := 600
  ipTrust := .unset
  deviceTrust := .unset
  trustOnlyWhenSole := none

/-- Sets the time codes are good for; what is more than whole seconds is dropped. -/
def withLifetime (s : OtpSettings) (lifetime : Duration) : OtpSettings :=
  { s with lifetimeSecs := UInt64.ofNat lifetime.wholeSecs }

def toMap (s : OtpSettings) : KeyMap String :=
  let role (m : KeyMap String) :=
    match s.userRole with
    | none => m
    | some role => (m.insert "user-role" role).insert "negate-user-role" "false"
  let code (m : KeyMap String) :=
    ((m.insert "code-alphabet" s.alphabet).insert "code-length" (toString s.length.toNat)).insert
      "code-lifetime" (toString s.lifetimeSecs.toNat)
  let trust (m : KeyMap String) := s.deviceTrust.write "device-trust" (s.ipTrust.write "ip-trust" m)
  let sole (m : KeyMap String) :=
    match s.trustOnlyWhenSole with
    | none => m
    | some sole => m.insert "trust-only-when-sole" (toString sole)
  sole (trust (code (role .empty)))

end OtpSettings

end RealmSetup
