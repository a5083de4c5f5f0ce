import ConsentGate.Consent.Purpose
import ConsentGate.VendorList.Basic
import ConsentGate.Event

namespace ConsentGate

structure TcfModel where
  purposes : IdSet := []
  vendors : IdSet := []
deriving DecidableEq, Inhabited

namespace TcfModel

inductive Field where
  | purposes
  | vendors
deriving DecidableEq

def Field.name : Field → String
  | purposes => "purposes_consent"
  | vendors => "vendors_consent"

def get (m : TcfModel) : Field → IdSet
  | .purposes => m.purposes
  | .vendors => m.vendors

open Schema

def fieldNames : List String := [Field.purposes, Field.vendors].map Field.name

def readFields (f : Json.Fields) : Reading TcfModel :=
  TcfModel.mk <$> field f Field.purposes.name IdSet.read (some [])
    <*> field f Field.vendors.name IdSet.read (some [])

def toJson (m : TcfModel) : Json :=
  .object ([Field.purposes, Field.vendors].map fun f => (f.name, .ints (m.get f)))

end TcfModel

/-- The consent of one request. An id without an entry is denied. -/
structure Consent where
  tcString : Text := []
  gdprApplies : Bool := false
  purposes : OrderedMap Int Bool := []
  vendors : OrderedMap Int Bool := []
  timestamp : Moment
  version : Text := "2"
deriving DecidableEq, Inhabited

inductive Finding where
  | vendorNotListed (vendor : Int)
  | purposeNotDeclared (vendor purpose : Int)
  | vendorDenied (vendor : Int)
  | purposeDenied (vendor purpose : Int)
  | granted (vendor : Int) (purposes : List Int)
deriving DecidableEq

namespace Finding

def isGranted : Finding → Bool
  | granted .. => true
  | _ => false

def event : Finding → Event
  | vendorNotListed v => .vendorNotListed v
  | purposeNotDeclared v p => .purposeNotDeclared v p
  | vendorDenied v => .vendorDenied v
  | purposeDenied v p => .purposeDenied v p
  | granted v ps => .consentGranted v ps

end Finding

namespace Consent

def denied (now : Moment) : Consent := { timestamp := now }

def allowsPurpose (c : Consent) (p : Int) : Bool := c.purposes.lookup p = some true

def allowsVendor (c : Consent) (v : Int) : Bool := c.vendors.lookup v = some true

def allowsPurposes (c : Consent) (ps : List Int) : Bool := ps.all c.allowsPurpose

def listObjection (l : VendorList) (vendor : Int) (ps : List Int) : Option Finding :=
  if !l.lists vendor then some (.vendorNotListed vendor)
  else (ps.find? (!l.declares vendor ·)).map (.purposeNotDeclared vendor)

/-- Objections of the vendor list come first, then the vendor's consent, then the purposes in the
order in which they are asked for. -/
def check (c : Consent) (vendor : Int) (ps : List Int) (l : Option VendorList) : Finding :=
  match l.bind (listObjection · vendor ps) with
  | some finding => finding
  | none =>
    if !c.allowsVendor vendor then .vendorDenied vendor
    else match ps.find? (!c.allowsPurpose ·) with
      | some p => .purposeDenied vendor p
      | none => .granted vendor ps

/-- The findings on all advertising purposes and, if those fall short, on basic ads. -/
def levelFindings (c : Consent) (vendor : Int) (l : Option VendorList) : List Finding :=
  let full := c.check vendor PurposeGroup.advertising.ids l
  if full.isGranted then [full] else [full, c.check vendor PurposeGroup.basicAds.ids l]

def level (c : Consent) (vendor : Int) (l : Option VendorList) : AdvertisingLevel :=
  .graded (c.check vendor PurposeGroup.advertising.ids l).isGranted
    (c.check vendor PurposeGroup.basicAds.ids l).isGranted

def purposeLevel (c : Consent) : AdvertisingLevel :=
  .graded (c.allowsPurposes PurposeGroup.advertising.ids)
    (c.allowsPurposes PurposeGroup.basicAds.ids)

open Schema

def fieldNames : List String :=
  ["tc_string", "gdpr_applies", "purpose_consents", "vendor_consents", "timestamp", "version"]

def readFields (now : Moment) (f : Json.Fields) : Reading Consent :=
  Consent.mk <$> field f "tc_string" readText (some [])
    <*> field f "gdpr_applies" readBool (some false)
    <*> field f "purpose_consents" (readIntMap readBool) (some [])
    <*> field f "vendor_consents" (readIntMap readBool) (some [])
    <*> field f "timestamp" readMoment (some now)
    <*> field f "version" readText (some "2")

def mapJson (m : OrderedMap Int Bool) : Json :=
  .object (m.map fun (id, b) => (toString id, .bool b))

def toJson (c : Consent) : Json :=
  .object [("tc_string", .ofText c.tcString), ("gdpr_applies", .bool c.gdprApplies),
    ("purpose_consents", mapJson c.purposes), ("vendor_consents", mapJson c.vendors),
    ("timestamp", .string c.timestamp.toString), ("version", .ofText c.version)]

end Consent

end ConsentGate
