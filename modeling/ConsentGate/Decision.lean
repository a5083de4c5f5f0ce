import ConsentGate.Consent.Purpose
import ConsentGate.Identity

namespace ConsentGate

structure Decision where
  gdprApplies : Bool
  tcString : Text := []
  requestedPurposes : List Int
  allowed : Bool
  deviceAccess : Bool
  advertisingLevel : AdvertisingLevel
  syntheticId : Text
  provenance : Option Provenance := none
  freshId : Option Text := none
  vendorId : Option Int := none
  vendorListVersion : Option Int := none
  evaluatedAt : Moment
deriving DecidableEq

namespace Decision

def placeholder : Text := "non-personalized"

def isPersonalized (d : Decision) : Bool := d.provenance.isSome

def withIdentity (d : Decision) (identity : Identity) (fresh : Text) : Decision :=
  { d with
    syntheticId := identity.value
    provenance := some identity.provenance
    freshId := some fresh }

open Schema

def fieldNames : List String :=
  ["gdpr_applies", "tc_string", "requested_purposes", "allowed", "device_access",
    "advertising_level", "synthetic_id", "provenance", "fresh_id", "vendor_id",
    "vendor_list_version", "evaluated_at"]

def readFields (f : Json.Fields) : Reading Decision :=
  Decision.mk <$> field f "gdpr_applies" readBool none
    <*> field f "tc_string" readText (some [])
    <*> field f "requested_purposes" (readList readInt) none
    <*> field f "allowed" readBool none
    <*> field f "device_access" readBool none
    <*> field f "advertising_level" (readWord .notMember AdvertisingLevel.words) none
    <*> field f "synthetic_id" readText none
    <*> field f "provenance" (optional (readWord .notMember Provenance.words)) (some none)
    <*> field f "fresh_id" (optional readText) (some none)
    <*> field f "vendor_id" (optional readInt) (some none)
    <*> field f "vendor_list_version" (optional readInt) (some none)
    <*> field f "evaluated_at" readMoment none

def publicFields (d : Decision) : Json.Fields :=
  [("gdpr_applies", .bool d.gdprApplies), ("requested_purposes", .ints d.requestedPurposes),
    ("allowed", .bool d.allowed), ("device_access", .bool d.deviceAccess),
    ("advertising_level", .string d.advertisingLevel.name),
    ("synthetic_id", .ofText d.syntheticId),
    ("provenance", .ofOption (fun p => .string p.name) d.provenance),
    ("fresh_id", .ofOption .ofText d.freshId), ("vendor_id", .ofOption .int d.vendorId),
    ("vendor_list_version", .ofOption .int d.vendorListVersion),
    ("evaluated_at", .string d.evaluatedAt.toZString)]

def toJson (d : Decision) : Json :=
  let rest : Json.Fields := [("personalized", .bool d.isPersonalized)]
  .object (("tc_string", .ofText d.tcString) :: (d.publicFields ++ rest))

end Decision

end ConsentGate
