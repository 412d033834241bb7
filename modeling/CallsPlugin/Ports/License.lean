import Mathlib.Tactic.Common

/-!
# Licenses (`server/license/license.go`, `server/enterprise/license.go`)

A license allows a feature by its name, or, where that name is unknown, by the features
it lists; a server set up for development needs none.  Group calls are also allowed by a
variable of the environment.
-/

namespace CallsPlugin.Ports.Licensing

/-- The features of a license that are looked at. -/
structure Features where
  ldap : Option Bool
  futureFeatures : Option Bool
  cloud : Option Bool
  deriving DecidableEq, Repr

/-- `model.License` -/
structure License where
  skuShortName : String
  features : Option Features
  deriving DecidableEq, Repr

/-- The settings of the server that are looked at. -/
structure ServiceSettings where
  enableTesting : Option Bool
  enableDeveloper : Option Bool
  deriving DecidableEq, Repr

/-- `IsConfiguredForDevelopment` -/
def isConfiguredForDevelopment (config : Option ServiceSettings) : Bool :=
  config.any fun c => c.enableTesting = some true ∧ c.enableDeveloper = some true

/-- `IsCloud` -/
def isCloud (license : Option License) : Bool :=
  match license with
  | some ⟨_, some features⟩ => features.cloud.getD false
  | _ => false

/-- `IsCloudStarter` -/
def isCloudStarter (license : Option License) : Bool :=
  license.any fun l => l.skuShortName = "starter"

/-- `IsEnterprise` -/
def isEnterprise (license : Option License) : Bool :=
  license.any fun l => l.skuShortName = "enterprise"

/-- `IsProfessional` -/
def isProfessional (license : Option License) : Bool :=
  license.any fun l => l.skuShortName = "professional"

/-- `IsEnterpriseAdvanced` -/
def isEnterpriseAdvanced (license : Option License) : Bool :=
  license.any fun l => l.skuShortName = "advanced"

/-- `isValidSkuShortName` -/
def isValidSkuShortName (license : Option License) : Bool :=
  license.any fun l =>
    l.skuShortName = "professional" ∨ l.skuShortName = "enterprise" ∨
      l.skuShortName = "advanced"

/-- The license has the feature. -/
def hasFeature (feature : Features → Option Bool) (license : Option License) : Bool :=
  license.any fun l => l.features.any fun f => feature f = some true

/-- `IsMinimumProfessionalLicensedOrDevelopment` -/
def isMinimumProfessionalLicensedOrDevelopment (config : Option ServiceSettings)
    (license : Option License) : Bool :=
  if isProfessional license ∨ isEnterprise license ∨
      isEnterpriseAdvanced license then true
  else if ¬ isValidSkuShortName license ∧ hasFeature Features.ldap license then true
  else isConfiguredForDevelopment config

/-- `IsMinimumEnterpriseLicensedOrDevelopment` -/
def isMinimumEnterpriseLicensedOrDevelopment (config : Option ServiceSettings)
    (license : Option License) : Bool :=
  if isEnterprise license ∨ isEnterpriseAdvanced license then true
  else if ¬ isValidSkuShortName license ∧
      hasFeature Features.futureFeatures license then true
  else isConfiguredForDevelopment config

/-- What the checker reads: `GetConfig`, `GetLicense` and the environment. -/
structure LicenseChecker where
  config : Option ServiceSettings
  license : Option License
  getenv : String → String

namespace LicenseChecker

variable (e : LicenseChecker)

/-- `isAtLeastEnterpriseLicensed` -/
def isAtLeastEnterpriseLicensed : Bool :=
  isMinimumEnterpriseLicensedOrDevelopment e.config e.license

/-- `isAtLeastProfessionalLicensed` -/
def isAtLeastProfessionalLicensed : Bool :=
  isMinimumProfessionalLicensedOrDevelopment e.config e.license

/-- `RTCDAllowed` -/
def rtcdAllowed : Bool := e.isAtLeastEnterpriseLicensed || isCloud e.license

/-- `RecordingsAllowed` -/
def recordingsAllowed : Bool := e.isAtLeastEnterpriseLicensed

/-- `HostControlsAllowed` -/
def hostControlsAllowed : Bool := e.isAtLeastProfessionalLicensed

/-- `GroupCallsAllowed` -/
def groupCallsAllowed : Bool :=
  e.isAtLeastProfessionalLicensed || e.getenv "MM_CALLS_GROUP_CALLS_ALLOWED" = "true"

end LicenseChecker

end CallsPlugin.Ports.Licensing
