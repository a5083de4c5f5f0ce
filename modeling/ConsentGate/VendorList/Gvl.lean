import ConsentGate.VendorList.Basic

namespace ConsentGate

inductive GvlError where
  | noVendors
  /-- An entry is not an object but a value of this kind. -/
  | entryOfKind (kind : String)
  | invalid (issues : List Schema.Issue)

namespace GvlError

def issues : GvlError → List Schema.Issue
  | invalid issues => issues
  | _ => []

def message : GvlError → String
  | noVendors => "GVL payload has no 'vendors' object"
  | entryOfKind kind => "Invalid GVL payload: '" ++ kind ++ "' object has no attribute 'get'"
  | invalid _ => "Invalid GVL payload: <validation>"

end GvlError

namespace VendorList

namespace Gvl

open Schema

/-- A set that may be left out. Issues are told by the name of the part that it fills. -/
def readSet (entry : Json.Fields) (name part : String) : Reading IdSet :=
  match entry.lookup (name : Text) with
  | some j => (IdSet.read j).under (.field part)
  | none => .value []

def readVendor (key : Text) (entry : Json.Fields) : Reading Vendor :=
  let id := (entry.lookup ("id" : Text)).getD (.ofText key)
  Vendor.mk <$> (readIntAbove 0 id).under (.field "id")
    <*> field entry "name" readText (some [])
    <*> readSet entry "purposes" "purposes"
    <*> readSet entry "legIntPurposes" "legitimate_interests"
    <*> readSet entry "features" "features"
    <*> readSet entry "specialFeatures" "special_features"

/-- The first entry that cannot be read ends the reading; of equal ids the last entry counts. -/
def readVendors (read : OrderedMap Int Vendor) : Json.Fields →
    Except GvlError (OrderedMap Int Vendor)
  | [] => .ok read
  | (key, .object entry) :: rest =>
    match readVendor key entry with
    | .value v => readVendors (read.put v.id v) rest
    | .issues found => .error (.invalid found)
  | (_, j) :: _ => .error (.entryOfKind j.kindName)

/-- A document that does not say when it was updated counts as updated now. -/
def readUpdated (now : Moment) : Option Json → Reading (Option Moment)
  | some j =>
    if j.isFalsy then .value (some now)
    else ((readMoment j).map some).under (.field "last_updated")
  | none => .value (some now)

def readVersion : Option Json → Reading Int
  | some j => (readInt j).under (.field "version")
  | none => .value 0

end Gvl

open Gvl in
def ofGvl (now : Moment) (payload : Json) : Except GvlError VendorList :=
  match payload.get? "vendors" with
  | some (.object entries) => do
    let vendors ← readVendors [] entries
    let rest := Prod.mk <$> readUpdated now (payload.get? "lastUpdated")
      <*> readVersion (payload.get? "vendorListVersion")
    let (updated, version) ← rest.toExcept.mapError .invalid
    return ⟨vendors, updated, version⟩
  | _ => .error .noVendors

end VendorList

end ConsentGate
