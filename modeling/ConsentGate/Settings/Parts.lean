import ConsentGate.Gate
import ConsentGate.Log.Basic
import ConsentGate.Settings.Basic

namespace ConsentGate.Settings

def gate (s : Settings) (decoder : Option Decoder) : Except IdentityError Gate := do
  let resolver ← s.resolver
  return {
    resolver := resolver
    decoder := decoder
    vendorId := s.consent.vendorId
    validates := s.consent.validateWithVendorList }

def cache (s : Settings) (now : Moment) : Except IntervalError Cache := do
  let refresh ← Interval.ofDays? s.consent.refreshDays
  let retry ← Interval.ofMinutes? s.consent.retryMinutes
  return .create now none refresh retry none none

def log (s : Settings) : Log := { threshold := s.logLevel.rank }

end ConsentGate.Settings
