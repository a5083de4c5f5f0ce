import ConsentGate.Cache.Basic
import ConsentGate.Consent.Decoding
import ConsentGate.Decision
import ConsentGate.Resolver

namespace ConsentGate

structure Gate where
  resolver : Resolver
  decoder : Option Decoder
  vendorId : Option Int
  validates : Bool

namespace Gate

/-- The outcome of one evaluation. What a refresh in the background logs comes apart. -/
structure Evaluation where
  cache : Option Cache
  decision : Logged IdentityError Decision
  refreshEvents : List Event

def consentFor (g : Gate) (now : Moment) (s : Signals) : Consent × List Event :=
  Consent.ofSignals now g.decoder s

def vendorList (g : Gate) (cache : Option Cache) (now time : Moment) :
    Option Cache × List Event × Option VendorList :=
  match g.validates, cache with
  | true, some c =>
    let (c, events, l) := c.current now time
    (some c, events, l)
  | _, _ => (cache, [], none)

def isAllowed (g : Gate) (c : Consent) (ps : List Int) (l : Option VendorList) :
    Bool × List Event :=
  match g.vendorId with
  | none => (c.allowsPurposes ps, [])
  | some v =>
    let finding := c.check v ps l
    (finding.isGranted, [finding.event])

def advertisingLevel (g : Gate) (c : Consent) (l : Option VendorList) :
    AdvertisingLevel × List Event :=
  match g.vendorId with
  | none => (c.purposeLevel, [])
  | some v => (c.level v l, (c.levelFindings v l).map Finding.event)

/-- The id of a request that is allowed, and the one that its attributes give. -/
def identify (g : Gate) (s : Signals) : Logged IdentityError (Identity × Text) := do
  let as := Attributes.ofSignals s
  let identity ← g.resolver.resolve s as
  if identity.provenance = .generated then return (identity, identity.value)
  else
    let fresh ← g.resolver.freshId as
    return (identity, fresh)

def verdict (g : Gate) (ps : List Int) (time : Moment) (c : Consent) (l : Option VendorList) :
    Decision where
  gdprApplies := c.gdprApplies
  tcString := c.tcString
  requestedPurposes := ps
  allowed := (g.isAllowed c ps l).1
  deviceAccess := (g.isAllowed c PurposeGroup.deviceAccess.ids l).1
  advertisingLevel := (g.advertisingLevel c l).1
  syntheticId := Decision.placeholder
  vendorId := g.vendorId
  vendorListVersion := l.map (·.version)
  evaluatedAt := time

def checkEvents (g : Gate) (ps : List Int) (c : Consent) (l : Option VendorList) : List Event :=
  (g.isAllowed c ps l).2 ++ (g.isAllowed c PurposeGroup.deviceAccess.ids l).2 ++
    (g.advertisingLevel c l).2

/-- What is decided once consent and vendor list are known. Only an allowed request gets ids. -/
def judge (g : Gate) (s : Signals) (ps : List Int) (time : Moment) (c : Consent)
    (l : Option VendorList) : Logged IdentityError Decision :=
  let verdict := g.verdict ps time c l
  let rest : Logged IdentityError Decision :=
    if verdict.allowed then do
      let (identity, fresh) ← g.identify s
      return verdict.withIdentity identity fresh
    else ⟨[.personalizationDenied ps g.vendorId c.gdprApplies], .ok verdict⟩
  ⟨g.checkEvents ps c l ++ rest.events, rest.result⟩

/-- No problem with the consent ends an evaluation; only the derivation of an id can fail. -/
def evaluate (g : Gate) (cache : Option Cache) (now : Moment) (s : Signals) (ps : List Int)
    (time : Moment) : Evaluation :=
  let (c, consentEvents) := g.consentFor now s
  let (cache, refreshEvents, l) := g.vendorList cache now time
  let decision := g.judge s ps time c l
  { cache := cache
    decision := { decision with events := consentEvents ++ decision.events }
    refreshEvents := refreshEvents }

end Gate

end ConsentGate
