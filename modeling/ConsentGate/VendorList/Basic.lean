import ConsentGate.IdSet

namespace ConsentGate

structure Vendor where
  id : Int
  name : Text
  purposes : IdSet := []
  legitimateInterests : IdSet := []
  features : IdSet := []
  specialFeatures : IdSet := []
deriving DecidableEq, Inhabited

structure VendorList where
  vendors : OrderedMap Int Vendor := []
  lastUpdated : Option Moment := none
  version : Int := 0
deriving DecidableEq, Inhabited

namespace Vendor

def declared (v : Vendor) : IdSet := v.purposes.union v.legitimateInterests

theorem mem_declared {v : Vendor} {p : Int} :
    p ∈ v.declared ↔ p ∈ v.purposes ∨ p ∈ v.legitimateInterests := IdSet.mem_union

open Schema

def fieldNames : List String :=
  ["id", "name", "purposes", "legitimate_interests", "features", "special_features"]

def readFields (f : Json.Fields) : Reading Vendor :=
  Vendor.mk <$> field f "id" (readIntAbove 0) none
    <*> field f "name" readText none
    <*> field f "purposes" IdSet.read (some [])
    <*> field f "legitimate_interests" IdSet.read (some [])
    <*> field f "features" IdSet.read (some [])
    <*> field f "special_features" IdSet.read (some [])

def toJson (v : Vendor) : Json :=
  .object [("id", .int v.id), ("name", .ofText v.name), ("purposes", .ints v.purposes),
    ("legitimate_interests", .ints v.legitimateInterests), ("features", .ints v.features),
    ("special_features", .ints v.specialFeatures), ("declared", .ints v.declared)]

end Vendor

namespace VendorList

def get? (l : VendorList) (vendor : Int) : Option Vendor := l.vendors.lookup vendor

def lists (l : VendorList) (vendor : Int) : Bool := (l.get? vendor).isSome

def declares (l : VendorList) (vendor purpose : Int) : Bool :=
  (l.get? vendor).any (·.declared.contains purpose)

/-- A list of unknown age is stale. -/
def isStale (l : VendorList) (maxAge : Interval) (now : Moment) : Bool :=
  l.lastUpdated.all fun updated => now.exceeds updated maxAge

open Schema

def fieldNames : List String := ["vendors", "last_updated", "version"]

def readFields (f : Json.Fields) : Reading VendorList :=
  VendorList.mk <$> field f "vendors" (readIntMap (record "VendorInfo" Vendor.readFields)) (some [])
    <*> field f "last_updated" (optional readMoment) (some none)
    <*> field f "version" readInt (some 0)

def toJson (l : VendorList) : Json :=
  .object [("version", .int l.version),
    ("last_updated", .ofOption (fun m => .string m.toString) l.lastUpdated),
    ("vendors", .object (l.vendors.map fun (id, v) => (toString id, v.toJson)))]

end VendorList

end ConsentGate
