import RealmSetup.Scenario.Basic
import RealmSetup.Scenario.Settings

/-!
# The catalog of scenarios

The eight scenarios of a run by default, and the parts they are put together from: a fresh flow that
asks for a password and then a mailed code, and the stock entry point with a choice of second factors
put into its forms.
-/

namespace RealmSetup.Catalog

/-! ## Names -/

def testPassword : String := "testpassword"

/-- The role of users that need a mailed code. -/
def otpRole : String := "otp-required"

def testClientId : String := "test-client"

/-- The authenticator that mails codes. -/
def emailOtpProvider : String := "email-otp-form"

/-- The authenticator of time-based codes. -/
def totpProvider : String := "auth-otp-form"

/-- The authenticator of those who are logged in already. -/
def cookieProvider : String := "auth-cookie"

/-- The authenticator that asks for name and password. -/
def passwordProvider : String := "auth-username-password-form"

/-- The condition that a user has set up a second factor. -/
def userConfiguredCondition : String := "conditional-user-configured"

/-- The alias of the choice of second factors. -/
def twoFactorAlias : String := "2FA Options"

/-! ## Flows -/

/-- The leaf that mails codes. -/
def emailOtpLeaf (requirement : Requirement) (configAlias : String) (settings : OtpSettings) :
    Node :=
  .leaf emailOtpProvider requirement (some ⟨configAlias, settings.toMap⟩)

/-- A flow that lets pass who is logged in, and else asks for a password and then a mailed code. -/
def emailOtpTree (aliasName formsAlias : String) (formsRequirement : Requirement)
    (configAlias : String) (settings : OtpSettings) : FlowTree where
  aliasName
  description := ""
  kind := .basic
  nodes :=
    [.leaf cookieProvider .alternative none,
      .subflow formsAlias .basic formsRequirement
        [.leaf passwordProvider .required none, emailOtpLeaf .required configAlias settings]]

/-- The choice between a mailed and a time-based code, for users that have set up a second factor. -/
def twoFactorOptions (configAlias : String) (settings : OtpSettings) : Node :=
  .subflow twoFactorAlias .basic .conditional
    [.leaf userConfiguredCondition .required none, emailOtpLeaf .alternative configAlias settings,
      .leaf totpProvider .alternative none]

/-- The stock entry point with the choice of second factors in its forms. -/
def copiedBrowserPlan (aliasName configAlias : String) (settings : OtpSettings) : FlowPlan :=
  .copyAndInject "browser" aliasName "forms" [twoFactorOptions configAlias settings]

/-! ## Scenarios -/

def freshScenario (realm flowAlias formsAlias configAlias : String) (settings : OtpSettings)
    (users : List ScenarioUser) : Scenario where
  realm
  roles := []
  users
  localization := none
  flow := .fresh (emailOtpTree flowAlias formsAlias .required configAlias settings)

/-- A user without roles and second factor. -/
def plainUser (username : String) : ScenarioUser := ⟨username, [], false⟩

/-- Settings that ask only users with the role for a code. -/
def gated : OtpSettings := { OtpSettings.standard with userRole := some otpRole }

/-- The code is asked of users with the role. -/
def required : Scenario :=
  { freshScenario "test-otp-required" "browser-with-email-otp" "email-otp-forms" "email-otp-config"
      gated [⟨"user-with-role", [otpRole], false⟩, plainUser "user-without-role"] with
    roles := [otpRole] }

/-- The code is one of two second factors. -/
def alternative : Scenario where
  realm := "test-otp-alternative"
  roles := [otpRole]
  users :=
    [⟨"user-with-role", [otpRole], false⟩, plainUser "user-without-role",
      ⟨"user-totp-only", [], true⟩, ⟨"user-both-options", [otpRole], true⟩]
  localization := none
  flow := copiedBrowserPlan "browser-2fa-alternative" "email-otp-config" gated

/-- Network addresses are trusted. -/
def ipTrust : Scenario :=
  freshScenario "test-ip-trust" "browser-ip-trust" "ip-trust-forms" "email-otp-ip-trust-config"
    { OtpSettings.standard with ipTrust := .enabled 60, deviceTrust := .disabled }
    [plainUser "trust-user"]

/-- Devices are trusted. -/
def deviceTrust : Scenario :=
  freshScenario "test-device-trust" "browser-device-trust" "device-trust-forms"
    "email-otp-device-trust-config"
    { OtpSettings.standard with ipTrust := .disabled, deviceTrust := .enabled 30 }
    [plainUser "trust-user"]

/-- Network addresses and devices are trusted. -/
def bothTrust : Scenario :=
  freshScenario "test-both-trust" "browser-both-trust" "both-trust-forms"
    "email-otp-both-trust-config"
    { OtpSettings.standard with ipTrust := .enabled 60, deviceTrust := .enabled 30 }
    [plainUser "trust-user"]

/-- Network addresses are trusted where the code is the only second factor. -/
def trustAlternatives : Scenario where
  realm := "test-trust-alternatives"
  roles := [otpRole]
  users := [⟨"user-both-options", [otpRole], true⟩, ⟨"user-email-only", [otpRole], false⟩]
  localization := none
  flow := copiedBrowserPlan "browser-trust-alternatives" "email-otp-trust-alt-config"
    { gated with
      ipTrust := .enabled 60
      deviceTrust := .disabled
      trustOnlyWhenSole := some true }

/-- Codes are good for three seconds. -/
def shortTtl : Scenario :=
  freshScenario "test-short-ttl" "browser-short-ttl" "short-ttl-forms" "email-otp-short-ttl-config"
    (OtpSettings.standard.withLifetime (.ofSecs 3)) [plainUser "ttl-user"]

/-- The realm speaks nine languages. -/
def i18n : Scenario :=
  { freshScenario "test-i18n" "browser-i18n" "i18n-forms" "email-otp-i18n-config"
      { OtpSettings.standard with ipTrust := .disabled, deviceTrust := .enabled 3 }
      [plainUser "i18n-user"] with
    localization := some ⟨["en", "ar", "ru", "pl", "cs", "sl", "uk", "de", "fr"], "en"⟩ }

/-- The scenarios in the order of a run. -/
def scenarios : List Scenario :=
  [required, alternative, ipTrust, deviceTrust, bothTrust, trustAlternatives, shortTtl, i18n]

end RealmSetup.Catalog
