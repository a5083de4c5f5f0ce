import ConsentGate.Json.Basic

namespace ConsentGate

inductive Severity where
  | debug
  | info
  | warning
  | error
  | critical
deriving DecidableEq

namespace Severity

def name : Severity → String
  | debug => "debug"
  | info => "info"
  | warning => "warning"
  | error => "error"
  | critical => "critical"

def rank : Severity → Nat
  | debug => 10
  | info => 20
  | warning => 30
  | error => 40
  | critical => 50

end Severity

inductive Event where
  | consentCookieMissing
  | decoderNotConfigured
  /-- A decoder's refusal has no kind; any other failure is told by its kind as well. -/
  | decodeFailed (error : Text) (kind : Option String)
  | consentParsed (purposes vendors : Nat) (gdprApplies : Bool)
  | vendorNotListed (vendor : Int)
  | purposeNotDeclared (vendor purpose : Int)
  | vendorDenied (vendor : Int)
  | purposeDenied (vendor purpose : Int)
  | consentGranted (vendor : Int) (purposes : List Int)
  | idGenerated (id : Text)
  | idFromHeader (id : Text)
  | idFromCookie (id : Text)
  | idGeneratedForRequest (id : Text)
  | personalizationDenied (purposes : List Int) (vendor : Option Int) (gdprApplies : Bool)
  | listPublished (version : Int) (vendors : Nat)
  | fetcherNotConfigured
  | refreshInFlight
  | refreshStarted
  | refreshFailed (error : Text) (kind : String) (servingVersion : Option Int)
  | requestFailed (kind error path : String)
deriving DecidableEq

namespace Event

def name : Event → String
  | consentCookieMissing => "tcf_consent_cookie_missing"
  | decoderNotConfigured => "tcf_decoder_not_configured"
  | decodeFailed .. => "tcf_decode_failed"
  | consentParsed .. => "tcf_consent_parsed"
  | vendorNotListed _ => "vendor_not_in_gvl"
  | purposeNotDeclared .. => "vendor_purpose_not_declared"
  | vendorDenied _ => "vendor_consent_denied"
  | purposeDenied .. => "purpose_consent_denied"
  | consentGranted .. => "consent_granted"
  | idGenerated _ => "synthetic_id_generated"
  | idFromHeader _ => "synthetic_id_from_header"
  | idFromCookie _ => "synthetic_id_from_cookie"
  | idGeneratedForRequest _ => "synthetic_id_generated_for_request"
  | personalizationDenied .. => "personalization_denied"
  | listPublished .. => "vendor_list_published"
  | fetcherNotConfigured => "vendor_list_fetcher_not_configured"
  | refreshInFlight => "vendor_list_refresh_in_flight"
  | refreshStarted => "vendor_list_refresh_started"
  | refreshFailed .. => "vendor_list_refresh_failed"
  | requestFailed .. => "privacy_gate_error"

def severity : Event → Severity
  | consentCookieMissing | decoderNotConfigured | vendorDenied _ | purposeDenied ..
  | consentGranted .. | idGenerated _ | fetcherNotConfigured | refreshInFlight => .debug
  | consentParsed .. | idFromHeader _ | idFromCookie _ | idGeneratedForRequest _
  | personalizationDenied .. | listPublished .. | refreshStarted => .info
  | decodeFailed .. | vendorNotListed _ | purposeNotDeclared .. | refreshFailed .. => .warning
  | requestFailed .. => .error

def source : Event → String
  | consentCookieMissing | decoderNotConfigured | decodeFailed .. =>
    "privacy_gate.consent.extraction"
  | consentParsed .. | vendorNotListed _ | purposeNotDeclared .. | vendorDenied _
  | purposeDenied .. | consentGranted .. => "privacy_gate.consent.tcf"
  | idGenerated _ | idFromHeader _ | idFromCookie _ | idGeneratedForRequest _ =>
    "privacy_gate.identity.resolver"
  | personalizationDenied .. => "privacy_gate.gate.kernel"
  | listPublished .. | fetcherNotConfigured | refreshInFlight | refreshStarted
  | refreshFailed .. => "privacy_gate.vendor_list.cache"
  | requestFailed .. => "privacy_gate.api.app"

def fields : Event → Json.Fields
  | consentCookieMissing => [("cookie", .string "euconsent-v2")]
  | decodeFailed error kind =>
    ("error", .ofText error) :: (kind.map fun k => (("error_type" : Text), Json.string k)).toList
  | consentParsed purposes vendors gdprApplies =>
    [("purposes", .int purposes), ("vendors", .int vendors), ("gdpr_applies", .bool gdprApplies)]
  | vendorNotListed vendor | vendorDenied vendor => [("vendor_id", .int vendor)]
  | purposeNotDeclared vendor purpose | purposeDenied vendor purpose =>
    [("vendor_id", .int vendor), ("purpose_id", .int purpose)]
  | consentGranted vendor purposes => [("vendor_id", .int vendor), ("purposes", .ints purposes)]
  | idGenerated id | idFromHeader id | idFromCookie id | idGeneratedForRequest id =>
    [("synthetic_id", .ofText id)]
  | personalizationDenied purposes vendor gdprApplies =>
    [("purposes", .ints purposes), ("vendor_id", .ofOption .int vendor),
      ("gdpr_applies", .bool gdprApplies)]
  | listPublished version vendors => [("version", .int version), ("vendors", .int vendors)]
  | refreshFailed error kind servingVersion =>
    [("error", .ofText error), ("error_type", .string kind),
      ("serving_version", .ofOption .int servingVersion)]
  | requestFailed kind error path =>
    [("error_type", .string kind), ("error", .string error), ("path", .string path)]
  | decoderNotConfigured | fetcherNotConfigured | refreshInFlight | refreshStarted => []

def toJson (e : Event) : Json :=
  .object (("event", .string e.name) :: ("level", .string e.severity.name) :: e.fields)

end Event

structure Logged (ε α : Type) where
  events : List Event
  result : Except ε α

namespace Logged

variable {ε α β : Type}

def pure (a : α) : Logged ε α := ⟨[], .ok a⟩

def throw (e : ε) : Logged ε α := ⟨[], .error e⟩

def log (e : Event) : Logged ε Unit := ⟨[e], .ok ()⟩

def ofExcept (r : Except ε α) : Logged ε α := ⟨[], r⟩

def bind (x : Logged ε α) (f : α → Logged ε β) : Logged ε β :=
  match x.result with
  | .ok a =>
    let y := f a
    ⟨x.events ++ y.events, y.result⟩
  | .error e => ⟨x.events, .error e⟩

instance : Monad (Logged ε) where
  pure := pure
  bind := bind

@[simp] theorem result_pure (a : α) : (Pure.pure a : Logged ε α).result = .ok a := rfl

@[simp] theorem result_throw (e : ε) : (throw e : Logged ε α).result = .error e := rfl

@[simp] theorem result_log (e : Event) : (log e : Logged ε Unit).result = .ok () := rfl

@[simp] theorem result_ofExcept (r : Except ε α) : (ofExcept r).result = r := rfl

@[simp] theorem result_bind (x : Logged ε α) (f : α → Logged ε β) :
    (x >>= f).result = x.result.bind fun a => (f a).result := by
  obtain ⟨events, result⟩ := x
  cases result <;> rfl

def mapError {ε' : Type} (f : ε → ε') (x : Logged ε α) : Logged ε' α :=
  ⟨x.events, x.result.mapError f⟩

end Logged

end ConsentGate
