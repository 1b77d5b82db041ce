import RealmSetup.Json.Decode

/-!
# Secrets

A secret is a text that is shown nowhere by accident: its display hides it, and only `Secret.expose`
tells it.  On the wire and in a store it is the plain text.
-/

namespace RealmSetup

/-- A text that is to be kept out of sight. -/
structure Secret where
  /-- The text.  Whoever reads it must not show it. -/
  expose : String
  deriving DecidableEq

namespace Secret

/-- What is shown in place of a secret. -/
def display (_ : Secret) : String := "<redacted>"

def debug (s : Secret) : String := "TokenSecret(\"" ++ s.display ++ "\")"

def json (s : Secret) : Json := .text s.expose

def decoder : Json.Decoder Secret := fun r => (Json.string r).map Secret.mk

end Secret

end RealmSetup
