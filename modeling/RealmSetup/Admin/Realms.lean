import RealmSetup.Admin.Client
import RealmSetup.Admin.Documents
import RealmSetup.Text.Search

/-!
# Requests about realms

Realms, required actions, roles, users, clients and credentials on an admin server.
-/

namespace RealmSetup.AdminClient

variable (c : AdminClient)

/-! ## Realms -/

def realmExists (realm : String) : SiteAttempt Bool := do
  let found ← getOptionalJson (c.endpoint [realm]) RealmSummary.decoder
  return found.isSome

def getRealm (realm : String) : SiteAttempt RealmSummary :=
  getJson (c.endpoint [realm]) RealmSummary.decoder

def realmEntryPoint (realm : String) : SiteAttempt (Option String) := do
  return (← c.getRealm realm).browserFlow

/-- Creates a realm, which may be there already. -/
def createRealm (representation : Json) : SiteAttempt Creation :=
  create (c.endpoint []) representation

/-- Deletes a realm; tells whether there was one. -/
def deleteRealm (realm : String) : SiteAttempt Bool := do
  let url := c.endpoint [realm]
  let reply ← send .delete url .empty
  if reply.status = 404 then return false
  Attempt.ofExcept (reply.ensureSuccess .delete url)
  return true

def updateRealm (realm : String) (patch : Json) : SiteAttempt Unit :=
  execute .put (c.endpoint [realm]) (.json patch)

/-! ## Required actions -/

def listRequiredActions (realm : String) : SiteAttempt (List RequiredAction) :=
  getJson (c.endpoint [realm, "authentication", "required-actions"]) RequiredAction.listDecoder

/-- Reads a required action, which the realm may not know. -/
def getRequiredAction (realm aliasName : String) : SiteAttempt (Option RequiredAction) :=
  getOptionalJson (c.endpoint [realm, "authentication", "required-actions", aliasName])
    RequiredAction.decoder

def putRequiredAction (realm : String) (action : RequiredAction) : SiteAttempt Unit :=
  execute .put (c.endpoint [realm, "authentication", "required-actions", action.aliasName])
    (.json action.json)

/-- Makes a required action known to a realm. -/
def registerRequiredAction (realm providerId : String) : SiteAttempt Creation :=
  create (c.endpoint [realm, "authentication", "register-required-action"])
    (.members [("providerId", .text providerId), ("name", .text providerId)])

/-! ## Roles and users -/

/-- Creates a role, which may be there already. -/
def createRole (realm name : String) : SiteAttempt Creation :=
  create (c.endpoint [realm, "roles"]) (.members [("name", .text name)])

def getRole (realm name : String) : SiteAttempt Role :=
  getJson (c.endpoint [realm, "roles", name]) Role.decoder

/-- Creates a user, which may be there already. -/
def createUser (realm : String) (representation : Json) : SiteAttempt Creation :=
  create (c.endpoint [realm, "users"]) representation

def findUser (realm username : String) : SiteAttempt (Option UserRecord) := do
  let url := (c.endpoint [realm, "users"]).withPairs [("username", username), ("exact", "true")]
  let users ← getJson url UserRecord.listDecoder
  return users.find? fun u => Text.equalIgnoringAsciiCase u.username username

def getUser (realm id : String) : SiteAttempt UserRecord :=
  getJson (c.endpoint [realm, "users", id]) UserRecord.decoder

def putUser (realm : String) (user : UserRecord) : SiteAttempt Unit :=
  execute .put (c.endpoint [realm, "users", user.id]) (.json user.json)

def addRealmRoles (realm id : String) (roles : List Role) : SiteAttempt Unit :=
  execute .post (c.endpoint [realm, "users", id, "role-mappings", "realm"])
    (.json (.array (roles.map Role.json)))

def listUserRealmRoles (realm id : String) : SiteAttempt (List Role) :=
  getJson (c.endpoint [realm, "users", id, "role-mappings", "realm"]) (Json.list Role.decoder)

/-! ## Clients -/

def getClientByClientId (realm clientId : String) : SiteAttempt (Option ClientSummary) := do
  let url := (c.endpoint [realm, "clients"]).withPairs [("clientId", clientId)]
  let clients ← getJson url (Json.list ClientSummary.decoder)
  return clients.find? fun client => client.clientId = clientId

/-- Creates a client, which may be there already. -/
def createClient (realm : String) (representation : Json) : SiteAttempt Creation :=
  create (c.endpoint [realm, "clients"]) representation

/-! ## Credentials -/

/-- Some of the lowest hexadecimal digits of a number, the lowest last. -/
def hexDigits (n : Nat) : Nat → List Char
  | 0 => []
  | count + 1 => hexDigits (n / 16) count ++ [Nat.digitChar (n % 16)]

/-- The random identifier, of version 4, that is made from a number. -/
def credentialId (n : Nat) : String :=
  let variant := Nat.digitChar (8 + (n >>> 120) % 4)
  String.ofList <|
    hexDigits n 8 ++ '-' :: hexDigits (n >>> 32) 4 ++ '-' :: '4' :: hexDigits (n >>> 48) 3
      ++ '-' :: variant :: hexDigits (n >>> 60) 3 ++ '-' :: hexDigits (n >>> 72) 12

/-- What a credential for time-based codes says: six digits every thirty seconds. -/
def totpData : Json :=
  .members
    [("subType", .text "totp"), ("period", .nat 30), ("digits", .nat 6),
      ("algorithm", .text "HmacSHA1")]

/-- Stores a credential for time-based codes. -/
def putOtpCredential (realm userId : String) (seed : Secret) : SiteAttempt Unit := do
  let id := credentialId (← ExceptT.lift (Offers.perform (I := Host) .drawId) : Nat)
  execute .put (c.endpoint [realm, "users", userId, "credentials", id])
    (.json <| .members
      [("id", .text id), ("type", .text "otp"), ("userLabel", .text "Authenticator"),
        ("credentialData", .text totpData.render),
        ("secretData", .text (Json.members [("value", seed.json)]).render)])

end RealmSetup.AdminClient
