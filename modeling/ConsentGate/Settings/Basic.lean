import ConsentGate.Resolver

namespace ConsentGate

inductive AppEnvironment where
  | development
  | staging
  | production
  | testing
deriving DecidableEq

namespace AppEnvironment

def name : AppEnvironment → String
  | development => "development"
  | staging => "staging"
  | production => "production"
  | testing => "testing"

def words : List (String × AppEnvironment) :=
  [development, staging, production, testing].map fun e => (e.name, e)

end AppEnvironment

def Severity.words : List (String × Severity) :=
  [("DEBUG", .debug), ("INFO", .info), ("WARNING", .warning), ("ERROR", .error),
    ("CRITICAL", .critical)]

def Severity.settingName : Severity → String
  | debug => "DEBUG"
  | info => "INFO"
  | warning => "WARNING"
  | error => "ERROR"
  | critical => "CRITICAL"

structure PublisherSettings where
  domain : Text := .ofString "localhost"
  cookieDomain : Text := .ofString "localhost"
deriving DecidableEq

structure SyntheticSettings where
  secretKey : Text
  template : Text
deriving DecidableEq

structure ConsentSettings where
  /-- Without a vendor only the purposes are checked. -/
  vendorId : Option Int := none
  validateWithVendorList : Bool := true
  refreshDays : Int := 7
  retryMinutes : Int := 60
deriving DecidableEq

structure Settings where
  appEnv : AppEnvironment := .development
  logLevel : Severity := .info
  logJson : Bool := false
  publisher : PublisherSettings := {}
  synthetic : SyntheticSettings
  consent : ConsentSettings := {}
deriving DecidableEq

namespace Settings

open Schema

def emptySecret : String := "secret_key must not be empty"

def insecureSecret : String := "secret_key is set to the insecure default value"

def bareTemplate : String := "template must reference at least one request attribute"

def placeholderSecret : String := "secret-key"

def readSecret (j : Json) : Reading Text :=
  (readText j).andThen fun t =>
    if t.isEmpty then .fault (.rejected emptySecret)
    else if t = .ofString placeholderSecret then .fault (.rejected insecureSecret)
    else .value t

def readTemplate (j : Json) : Reading Text :=
  (readText j).andThen fun text =>
    match Template.parseWith Attribute.names text with
    | .error e => .fault (.rejected e.message)
    | .ok t =>
      if t.names.isEmpty then .fault (.rejected bareTemplate) else .value text

def readPublisher (f : Json.Fields) : Reading PublisherSettings :=
  PublisherSettings.mk <$> field f "domain" readText (some (.ofString "localhost"))
    <*> field f "cookie_domain" readText (some (.ofString "localhost"))

def readSynthetic (f : Json.Fields) : Reading SyntheticSettings :=
  SyntheticSettings.mk <$> field f "secret_key" readSecret none
    <*> field f "template" readTemplate (some Resolver.defaultTemplate)

def readConsent (f : Json.Fields) : Reading ConsentSettings :=
  ConsentSettings.mk <$> field f "vendor_id" (optional (readIntAbove 0)) (some none)
    <*> field f "validate_with_vendor_list" readBool (some true)
    <*> field f "vendor_list_refresh_days" (readIntFrom 1) (some 7)
    <*> field f "vendor_list_retry_minutes" (readIntFrom 1) (some 60)

def readFields (f : Json.Fields) : Reading Settings :=
  Settings.mk <$> field f "app_env" (readWord .notLiteral AppEnvironment.words) (some .development)
    <*> field f "log_level" (readWord .notLiteral Severity.words) (some .info)
    <*> field f "log_json" readBool (some false)
    <*> field f "publisher" (record "PublisherSettings" readPublisher) (some {})
    <*> field f "synthetic" (record "SyntheticSettings" readSynthetic) none
    <*> field f "consent" (record "ConsentSettings" readConsent) (some {})

def shownSecret (t : Text) : String := if t.isEmpty then "" else "**********"

def toJson (s : Settings) : Json :=
  .object [("app_env", .string s.appEnv.name), ("log_level", .string s.logLevel.settingName),
    ("log_json", .bool s.logJson),
    ("publisher", .object [("domain", .ofText s.publisher.domain),
      ("cookie_domain", .ofText s.publisher.cookieDomain)]),
    ("synthetic", .object [("secret_key", .ofText s.synthetic.secretKey),
      ("secret_shown", .string (shownSecret s.synthetic.secretKey)),
      ("template", .ofText s.synthetic.template)]),
    ("consent", .object [("vendor_id", .ofOption .int s.consent.vendorId),
      ("validate_with_vendor_list", .bool s.consent.validateWithVendorList),
      ("vendor_list_refresh_days", .int s.consent.refreshDays),
      ("vendor_list_retry_minutes", .int s.consent.retryMinutes)])]

def resolver (s : Settings) : Except IdentityError Resolver :=
  Resolver.make s.synthetic.secretKey s.synthetic.template

end Settings

end ConsentGate
