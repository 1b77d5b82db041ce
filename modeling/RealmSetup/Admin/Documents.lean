import RealmSetup.Json.Decode

/-!
# Documents of an admin server

What a server tells about realms, roles, users, required actions and clients, as far as it is looked
at.  Users and required actions are written back, so that every field not named here is kept and sent
as it came.
-/

namespace RealmSetup

/-- What is read of a realm. -/
structure RealmSummary where
  realm : String
  /-- Whether users can log in. -/
  enabled : Bool
  browserFlow : Option String
  /-- Whether the realm speaks several languages. -/
  internationalizationEnabled : Bool
  supportedLocales : List String
  /-- The language that is used where none is chosen. -/
  defaultLocale : Option String
  deriving DecidableEq, Repr

namespace RealmSummary

def json (r : RealmSummary) : Json :=
  .members
    [("realm", .text r.realm), ("enabled", .bool r.enabled),
      ("browserFlow", .textOrNull r.browserFlow),
      ("internationalizationEnabled", .bool r.internationalizationEnabled),
      ("supportedLocales", .texts r.supportedLocales),
      ("defaultLocale", .textOrNull r.defaultLocale)]

def decoder : Json.Decoder RealmSummary :=
  (Json.Record.of RealmSummary.mk
    |>.required "realm" Json.string
    |>.optional "enabled" Json.boolean false
    |>.optional "browserFlow" (Json.nullable Json.string) none
    |>.optional "internationalizationEnabled" Json.boolean false
    |>.optional "supportedLocales" (Json.list Json.string) []
    |>.optional "defaultLocale" (Json.nullable Json.string) none).decode

end RealmSummary

/-- A role of a realm. -/
structure Role where
  id : String
  name : String
  deriving DecidableEq, Repr

namespace Role

def json (r : Role) : Json := .members [("id", .text r.id), ("name", .text r.name)]

def decoder : Json.Decoder Role :=
  (Json.Record.of Role.mk
    |>.required "id" Json.string
    |>.required "name" Json.string).decode

end Role

/-- How a realm sends mail. -/
structure MailTransport where
  host : String
  /-- Its port, which is stored as text. -/
  port : String
  «from» : String
  fromDisplayName : String
  deriving DecidableEq, Repr

namespace MailTransport

def json (t : MailTransport) : Json :=
  .members
    [("host", .text t.host), ("port", .text t.port), ("from", .text t.from),
      ("fromDisplayName", .text t.fromDisplayName)]

def decoder : Json.Decoder MailTransport :=
  (Json.Record.of MailTransport.mk
    |>.required "host" Json.string
    |>.required "port" Json.string
    |>.required "from" Json.string
    |>.required "fromDisplayName" Json.string).decode

end MailTransport

/-- The members of a document that is written back: those that were kept and those that are
modelled. -/
def Json.withKept (kept : KeyMap Json) (modelled : List (String × Json)) : Json :=
  .members (kept.entries ++ modelled)

/-- A user. -/
structure UserRecord where
  id : String
  username : String
  email : Option String
  /-- What the user has to do at the next login. -/
  requiredActions : List String
  /-- Every other field. -/
  extra : KeyMap Json

namespace UserRecord

def json (u : UserRecord) : Json :=
  .withKept u.extra <|
    [("id", .text u.id), ("username", .text u.username)]
    ++ (u.email.toList.map fun email => ("email", .text email))
    ++ [("requiredActions", .texts u.requiredActions)]

def record : Json.Record (KeyMap Json → UserRecord) :=
  Json.Record.of UserRecord.mk
    |>.required "id" Json.string
    |>.required "username" Json.string
    |>.optional "email" (Json.nullable Json.string) none
    |>.optional "requiredActions" (Json.list Json.string) []

/-- Finds a user among at most `room` containers that may lie inside one another. -/
def decoderIn (room : Nat) : Json.Decoder UserRecord := record.decodeOpen room

def decoder : Json.Decoder UserRecord := decoderIn Json.deepest

def listDecoder : Json.Decoder (List UserRecord) := Json.list (decoderIn (Json.deepest - 1))

end UserRecord

/-- A required action of a realm. -/
structure RequiredAction where
  aliasName : String
  name : String
  /-- Whether users can be given the action. -/
  enabled : Bool
  /-- Whether new users are given the action. -/
  defaultAction : Bool
  /-- Every other field. -/
  extra : KeyMap Json

namespace RequiredAction

def json (a : RequiredAction) : Json :=
  .withKept a.extra
    [("alias", .text a.aliasName), ("name", .text a.name), ("enabled", .bool a.enabled),
      ("defaultAction", .bool a.defaultAction)]

def record : Json.Record (KeyMap Json → RequiredAction) :=
  Json.Record.of RequiredAction.mk
    |>.required "alias" Json.string
    |>.optional "name" Json.string ""
    |>.optional "enabled" Json.boolean false
    |>.optional "defaultAction" Json.boolean false

/-- Finds a required action among at most `room` containers that may lie inside one another. -/
def decoderIn (room : Nat) : Json.Decoder RequiredAction := record.decodeOpen room

def decoder : Json.Decoder RequiredAction := decoderIn Json.deepest

def listDecoder : Json.Decoder (List RequiredAction) :=
  Json.list (decoderIn (Json.deepest - 1))

end RequiredAction

/-- What is read of a client. -/
structure ClientSummary where
  id : String
  /-- The identifier the client goes by. -/
  clientId : String
  deriving DecidableEq, Repr

namespace ClientSummary

def json (c : ClientSummary) : Json :=
  .members [("id", .text c.id), ("clientId", .text c.clientId)]

def decoder : Json.Decoder ClientSummary :=
  (Json.Record.of ClientSummary.mk
    |>.required "id" Json.string
    |>.required "clientId" Json.string).decode

end ClientSummary

end RealmSetup
