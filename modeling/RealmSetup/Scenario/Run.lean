import RealmSetup.Admin.Flows
import RealmSetup.Mail.Capture
import RealmSetup.Scenario.Catalog
import RealmSetup.Scenario.Enroll
import RealmSetup.Scenario.Written
import RealmSetup.Store.FileVault

/-!
# Runs

A run drops the secrets of earlier runs and the captured mail and then sets up the realms of its
scenarios one after another, up to the first that fails.  In each realm everything else is done before
the entry point is made, and the entry point is bound last.
-/

namespace RealmSetup

/-- The surroundings of a run: those of a client that sends tokens, and a store of secrets. -/
abbrev Station : Interface := Site.both Vault

instance : Offers Station Journal where
  perform n := Program.call (I := Station) (.inl (.inr (.note n)))

abbrev StationAttempt (α : Type) : Type := Attempt Station α

namespace StationAttempt

/-- An attempt of a client that sends tokens. -/
def ofSite {α : Type} (work : SiteAttempt α) : StationAttempt α :=
  .ofProgram (work.run.interpret fun c => Program.call (I := Station) (.inl c))

/-- An attempt of a client that sends no tokens. -/
def ofHost {α : Type} (work : HostAttempt α) : StationAttempt α :=
  .ofProgram (work.run.interpret fun c => Program.call (I := Station) (.inl (.inr c)))

/-- A failure of the store as an error. -/
def stored (result : Except StoreError Unit) : Except Error Unit :=
  match result with
  | .ok () => .ok ()
  | .error cause => .error (.storage cause)

def clearSecrets : StationAttempt Unit :=
  .ofProgram do
    let result : Except StoreError Unit ← Program.call (I := Station) (.inr .clear)
    return stored result

def putSecret (user : String) (secret : Secret) : StationAttempt Unit :=
  .ofProgram do
    let result : Except StoreError Unit ← Program.call (I := Station) (.inr (.put user secret))
    return stored result

end StationAttempt

open StationAttempt

/-- What came of one realm. -/
structure RealmReport where
  realm : String
  entryPoint : String
  users : KeyMap String
  enrolled : List String
  /-- What was built of the entry point. -/
  build : BuildReport

def RealmReport.json (r : RealmReport) : Json :=
  .members
    [("realm", .text r.realm), ("entry_point", .text r.entryPoint), ("users", .ofTexts r.users),
      ("enrolled", .texts r.enrolled), ("build", r.build.json)]

/-- What a run works with. -/
structure Orchestrator where
  admin : AdminClient
  /-- How second factors are enrolled. -/
  enroller : Enroller
  /-- The captured mail, if it is to be deleted. -/
  mail : Option MailCapture
  transport : MailTransport
  scenarios : List Scenario

/-- The transport to the server that captures mail. -/
def Catalog.mailTransport : MailTransport where
  host := "mailpit"
  port := "1025"
  «from» := "keycloak@" ++ userDomain
  fromDisplayName := "Keycloak Test"

namespace Orchestrator

def standard (admin : AdminClient) : Orchestrator where
  admin
  enroller := credentialEnroller admin
  mail := none
  transport := Catalog.mailTransport
  scenarios := Catalog.scenarios

/-- The run that a configuration describes, with its store of secrets. -/
def ofConfig (config : Config) : FileVault.Work (Orchestrator × FileVault) := do
  let vault ← FileVault.open? config.secretsPath
  return ({ standard ⟨config.baseUrl⟩ with mail := MailCapture.ofConfig? config }, vault)

/-! ## One realm -/

/-- Creates a user and gives it its roles; yields its identifier. -/
def addUser (admin : AdminClient) (realm : String) (user : ScenarioUser) : SiteAttempt String := do
  let id ← Provisioner.createUser admin realm
    ⟨user.username, user.email, ⟨Catalog.testPassword⟩⟩
  user.roles.forM (Provisioner.assignRole admin realm id)
  return id

/-- Creates users one after another; yields their identifiers by name. -/
def addUsers (admin : AdminClient) (realm : String) (found : KeyMap String) :
    List ScenarioUser → SiteAttempt (KeyMap String)
  | [] => return found
  | user :: rest => do
    let id ← addUser admin realm user
    addUsers admin realm (found.insert user.username id) rest

/-- Sets up all of a realm but its second factors and entry point; yields the identifiers of its users
by name. -/
def prepare (o : Orchestrator) (s : Scenario) : SiteAttempt (KeyMap String) := do
  Provisioner.resetRealm o.admin s.realm
  Provisioner.configureMail o.admin s.realm o.transport
  let _ ← Provisioner.ensureClient o.admin s.realm Catalog.testClientId
  match s.localization with
  | none => pure ()
  | some l => Provisioner.enableLocalization o.admin s.realm l.supported l.default
  s.roles.forM fun role => discard (Provisioner.ensureRole o.admin s.realm role)
  addUsers o.admin s.realm .empty s.users

/-- Has a user set up time-based codes and does it for the user. -/
def enrollUser (o : Orchestrator) (realm userId username : String) : SiteAttempt Secret := do
  Provisioner.enableRequiredAction o.admin realm configureTotp
  Provisioner.addUserRequiredAction o.admin realm userId configureTotp
  o.enroller realm userId username

/-- Enrolls users one after another and keeps their seeds. -/
def enrollUsers (o : Orchestrator) (realm : String) (ids : KeyMap String) :
    List ScenarioUser → StationAttempt Unit
  | [] => return ()
  | user :: rest => do
    match ids.get? user.username with
    | none => throw (.missingValue ("id of `" ++ user.username ++ "`"))
    | some id =>
      let seed ← ofSite (o.enrollUser realm id user.username)
      putSecret user.username seed
      enrollUsers o realm ids rest

/-- Sets up the realm of a scenario from scratch. -/
def provision (o : Orchestrator) (s : Scenario) : StationAttempt RealmReport :=
  observe .scenario s.realm do
    let users ← ofSite (o.prepare s)
    let enrolling := s.users.filter ScenarioUser.secondFactor
    o.enrollUsers s.realm users enrolling
    let build ← ofSite (o.admin.withFlows (s.applyFlow s.realm))
    return {
      realm := s.realm
      entryPoint := build.flowAlias
      users
      enrolled := enrolling.map ScenarioUser.username
      build }

/-! ## Whole runs -/

/-- Sets up realms one after another. -/
def provisionAll (o : Orchestrator) : List Scenario → StationAttempt (List RealmReport)
  | [] => return []
  | s :: rest => do
    let report ← o.provision s
    let reports ← provisionAll o rest
    return report :: reports

/-- Sets up every realm, after secrets and mail of earlier runs were dropped. -/
def run (o : Orchestrator) : StationAttempt (List RealmReport) := do
  clearSecrets
  match o.mail with
  | none => pure ()
  | some mail => ofHost mail.deleteAll
  let reports ← provisionAll o o.scenarios
  ExceptT.lift (log .info "provisioning run complete" [("realms", .nat reports.length)])
  return reports

end Orchestrator

end RealmSetup
