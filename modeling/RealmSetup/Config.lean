import RealmSetup.Auth.Grant
import RealmSetup.Poll
import RealmSetup.Text.Search

/-!
# Configuration

Where the admin server and the captured mail are, who the administrator is, and how long to wait for
what.  A draft collects settings, for most of which there is a default; `Config.Draft.build` checks
them and is the only way to a configuration.  `Config.ofLookup` reads the settings that environment
variables can hold.
-/

namespace RealmSetup

/-- A configuration that was checked. -/
structure Config where
  baseUrl : Url.Base
  /-- The realm that grants tokens to administrators. -/
  adminRealm : String
  /-- The client on whose behalf tokens are asked for. -/
  adminClientId : String
  adminUsername : String
  adminPassword : Secret
  /-- Where captured mail is, if it is captured. -/
  mailUrl : Option Url.Base
  secretsPath : String
  /-- How much of the life of a token may be left when it is renewed. -/
  refreshWindow : Duration
  /-- How long a request may take. -/
  httpTimeout : Duration
  /-- How to wait for mail. -/
  poll : PollPolicy

namespace Config

/-- Settings that are yet to be checked. -/
structure Draft where
  /-- Where the admin server is, if it was said. -/
  baseUrl : Option Url
  adminRealm : String
  adminClientId : String
  /-- Name and password of the administrator, if they were given. -/
  credentials : Option (String × String)
  mailUrl : Option Url
  secretsPath : String
  refreshWindow : Duration
  httpTimeout : Duration
  poll : PollPolicy

namespace Draft

/-- The settings that hold where nothing is said. -/
def start : Draft where
  baseUrl := none
  adminRealm := "master"
  adminClientId := "admin-cli"
  credentials := none
  mailUrl := none
  secretsPath := ".totp-secrets.json"
  refreshWindow := .ofSecs 30
  httpTimeout := .ofSecs 30
  poll := .standard

/-- Sets the window of renewal to a signed number of nanoseconds; one below zero counts as zero. -/
def withRefreshWindow (d : Draft) (nanos : Int) : Draft := { d with refreshWindow := ⟨nanos.toNat⟩ }

/-- The address of the admin server where none is given. -/
def defaultBaseUrl : Except ConfigError Url :=
  match Url.parse "http://localhost:8080" with
  | .ok url => .ok url
  | .error cause => .error (.invalidUrl "base" (some cause))

/-- An address as one below which others lie. -/
def requireBase (what : String) (url : Url) : Except ConfigError Url.Base :=
  match Url.Base.of? url with
  | some base => .ok base
  | none => .error (.invalidUrl what none)

/-- Checks the settings, in this order: addresses, credentials, pause. -/
def build (d : Draft) : Except ConfigError Config := do
  let url ← d.baseUrl.elim defaultBaseUrl .ok
  let baseUrl ← requireBase "base" url
  let mailUrl ← d.mailUrl.mapM (requireBase "mail capture")
  match d.credentials with
  | none => throw (.missing "admin_username")
  | some (username, password) =>
    if Text.allBlank username || password = "" then throw .emptyCredentials
    if d.poll.interval.nanos = 0 then throw .zeroPollInterval
    return {
      baseUrl
      adminRealm := d.adminRealm
      adminClientId := d.adminClientId
      adminUsername := username
      adminPassword := ⟨password⟩
      mailUrl
      secretsPath := d.secretsPath
      refreshWindow := d.refreshWindow
      httpTimeout := d.httpTimeout
      poll := d.poll }

end Draft

/-! ## Environment variables -/

/-- The variable that holds the address of the admin server. -/
def baseUrlVariable : String := "KEYCLOAK_URL"

/-- The variable that holds the address of captured mail. -/
def mailUrlVariable : String := "MAILPIT_URL"

/-- The variable that holds the name of the administrator. -/
def usernameVariable : String := "KEYCLOAK_ADMIN_USERNAME"

/-- The variable that holds the password of the administrator. -/
def passwordVariable : String := "KEYCLOAK_ADMIN_PASSWORD"

/-- The variable that holds the path of the file of secrets. -/
def secretsVariable : String := "TOTP_SECRETS_FILE"

/-- The address a variable holds. -/
def urlIn (name value : String) : Except ConfigError Url :=
  match Url.parse value with
  | .ok url => .ok url
  | .error _ => .error (.invalidEnv name)

/-- The configuration that variables describe, with a server on this machine where they are not
set. -/
def ofLookup (lookup : String → Option String) : Except ConfigError Config := do
  let baseUrl ← (lookup baseUrlVariable).mapM (urlIn baseUrlVariable)
  let mailUrl ← urlIn mailUrlVariable ((lookup mailUrlVariable).getD "http://localhost:8025")
  let username := (lookup usernameVariable).getD "admin"
  let password := (lookup passwordVariable).getD "admin"
  Draft.build
    { Draft.start with
      baseUrl
      mailUrl := some mailUrl
      credentials := some (username, password)
      secretsPath := (lookup secretsVariable).getD Draft.start.secretsPath }

/-! ## What a configuration describes -/

def grant (c : Config) : Grant where
  tokenUrl := c.baseUrl.below ["realms", c.adminRealm, "protocol", "openid-connect", "token"]
  clientId := c.adminClientId
  username := c.adminUsername
  password := c.adminPassword
  refreshWindow := c.refreshWindow

end Config

end RealmSetup
