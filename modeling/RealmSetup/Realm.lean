import RealmSetup.Admin.Realms

/-!
# Setting up a realm

Steps that bring a realm into the state asked for.  Each tolerates that the state is there already, so
that a run that failed can simply be repeated.
-/

namespace RealmSetup

/-- The required action that every new realm has to do without. -/
def verifyProfile : String := "VERIFY_PROFILE"

/-- A user to be created. -/
structure UserSpec where
  username : String
  email : String
  password : Secret

namespace Provisioner

variable (admin : AdminClient)

/-! ## Required actions -/

/-- Makes a required action known to a realm; one that is known is as good. -/
def registerRequiredAction (realm providerId : String) : SiteAttempt Creation :=
  observe .requiredAction realm (admin.registerRequiredAction realm providerId)

/-- Enables a required action, which is made known to the realm first where it is not. -/
def enableRequiredAction (realm aliasName : String) : SiteAttempt Unit :=
  observe .requiredAction realm do
    let known ← admin.listRequiredActions realm
    if !known.any fun a => a.aliasName = aliasName then
      let _ ← admin.registerRequiredAction realm aliasName
    match ← admin.getRequiredAction realm aliasName with
    | none =>
      throw (.missingValue ("required action `" ++ aliasName ++ "` in realm `" ++ realm ++ "`"))
    | some action =>
      if action.enabled then return ()
      admin.putRequiredAction realm { action with enabled := true }

/-- Disables a required action, for new users too; one that is not known is left alone. -/
def disableRequiredAction (realm aliasName : String) : SiteAttempt Unit :=
  observe .requiredAction realm do
    match ← admin.getRequiredAction realm aliasName with
    | none => return ()
    | some action =>
      if !action.enabled && !action.defaultAction then return ()
      admin.putRequiredAction realm { action with enabled := false, defaultAction := false }

def addUserRequiredAction (realm userId aliasName : String) : SiteAttempt Unit :=
  observe .requiredAction realm do
    let user ← admin.getUser realm userId
    if user.requiredActions.contains aliasName then return ()
    admin.putUser realm { user with requiredActions := user.requiredActions ++ [aliasName] }

/-- Removes a required action from those of a user. -/
def removeUserRequiredAction (realm userId aliasName : String) : SiteAttempt Unit :=
  observe .requiredAction realm do
    let user ← admin.getUser realm userId
    let kept := user.requiredActions.filter fun a => a ≠ aliasName
    if kept.length = user.requiredActions.length then return ()
    admin.putUser realm { user with requiredActions := kept }

/-! ## The realm itself -/

/-- What every new realm begins with. -/
def baseline (realm : String) : Json :=
  .members
    [("realm", .text realm), ("enabled", .bool true), ("registrationAllowed", .bool false),
      ("loginWithEmailAllowed", .bool true), ("duplicateEmailsAllowed", .bool false),
      ("resetPasswordAllowed", .bool false), ("editUsernameAllowed", .bool false),
      ("bruteForceProtected", .bool false), ("requiredActions", .array [])]

/-- Deletes a realm, if it exists, and creates it anew. -/
def resetRealm (realm : String) : SiteAttempt Unit :=
  observe .resetRealm realm do
    let existed ← admin.deleteRealm realm
    let _ ← admin.createRealm (baseline realm)
    disableRequiredAction admin realm verifyProfile
    ExceptT.lift (log .info "realm reset" [("realm", .text realm), ("existed", .bool existed)])

/-- Sets how a realm sends mail. -/
def configureMail (realm : String) (transport : MailTransport) : SiteAttempt Unit :=
  observe .configureMail realm
    (admin.updateRealm realm
      (.members [("realm", .text realm), ("smtpServer", transport.json)]))

/-- Sets the languages of a realm. -/
def enableLocalization (realm : String) (supported : List String) (default : String) :
    SiteAttempt Unit :=
  observe .localization realm
    (admin.updateRealm realm
      (.members
        [("realm", .text realm), ("internationalizationEnabled", .bool true),
          ("supportedLocales", .texts supported), ("defaultLocale", .text default)]))

def entryPoint (realm : String) : SiteAttempt (Option String) :=
  admin.realmEntryPoint realm

/-! ## Clients, roles and users -/

def publicClient (clientId : String) : Json :=
  .members
    [("clientId", .text clientId), ("enabled", .bool true), ("publicClient", .bool true),
      ("redirectUris", .texts ["http://localhost:8080/*", "http://keycloak:8080/*", "*"]),
      ("webOrigins", .texts ["http://localhost:8080", "http://keycloak:8080", "*"]),
      ("directAccessGrantsEnabled", .bool true), ("standardFlowEnabled", .bool true)]

/-- Creates a public client, unless there is one. -/
def ensureClient (realm clientId : String) : SiteAttempt Creation :=
  observe .ensureClient realm do
    if (← admin.getClientByClientId realm clientId).isSome then return .alreadyExists
    admin.createClient realm (publicClient clientId)

/-- Creates a role, unless there is one. -/
def ensureRole (realm role : String) : SiteAttempt Creation :=
  observe .ensureRole realm (admin.createRole realm role)

def newUser (user : UserSpec) : Json :=
  .members
    [("username", .text user.username), ("email", .text user.email), ("emailVerified", .bool true),
      ("enabled", .bool true),
      ("credentials", .array
        [.members
          [("type", .text "password"), ("value", user.password.json), ("temporary", .bool false)]])]

/-- Creates a user, unless there is one, and finds its identifier. -/
def createUser (realm : String) (user : UserSpec) : SiteAttempt String :=
  observe .createUser realm do
    let _ ← admin.createUser realm (newUser user)
    match ← admin.findUser realm user.username with
    | some found => return found.id
    | none => throw (.missingValue ("user `" ++ user.username ++ "` in realm `" ++ realm ++ "`"))

def assignRole (realm userId role : String) : SiteAttempt Unit :=
  observe .assignRole realm do
    let role ← admin.getRole realm role
    admin.addRealmRoles realm userId [role]

def userRealmRoles (realm userId : String) : SiteAttempt (List Role) :=
  admin.listUserRealmRoles realm userId

end Provisioner

end RealmSetup
