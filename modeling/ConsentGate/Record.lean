import ConsentGate.Consent.Basic
import ConsentGate.Decision

namespace ConsentGate

inductive RecordKind where
  | tcfModel
  | consent
  | vendor
  | vendorList
  | signals
  | attributes
  | identity
  | decision
deriving DecidableEq

inductive AssignmentError where
  | frozen (field : String)
  | readOnly (kind : RecordKind) (field : String)
  | noField (kind : RecordKind) (field : String)

namespace RecordKind

open Schema

def all : List RecordKind :=
  [tcfModel, consent, vendor, vendorList, signals, attributes, identity, decision]

def name : RecordKind → String
  | tcfModel => "RawTcModel"
  | consent => "TcfConsent"
  | vendor => "VendorInfo"
  | vendorList => "VendorList"
  | signals => "RequestSignals"
  | attributes => "IdentityAttributes"
  | identity => "SyntheticIdentity"
  | decision => "PrivacyDecision"

def ofName? (name : String) : Option RecordKind := all.find? (·.name = name)

/-- Only records of one request can be changed. -/
def isFrozen : RecordKind → Bool
  | consent | signals | decision => false
  | _ => true

def fieldNames : RecordKind → List String
  | tcfModel => TcfModel.fieldNames
  | consent => Consent.fieldNames
  | vendor => Vendor.fieldNames
  | vendorList => VendorList.fieldNames
  | signals => Signals.fieldNames
  | attributes => Attribute.all.map Attribute.name
  | identity => Identity.fieldNames
  | decision => Decision.fieldNames

def read (k : RecordKind) (now : Moment) (f : Json.Fields) : Reading Json :=
  match k with
  | tcfModel => (TcfModel.readFields f).map TcfModel.toJson
  | consent => (Consent.readFields now f).map Consent.toJson
  | vendor => (Vendor.readFields f).map Vendor.toJson
  | vendorList => (VendorList.readFields f).map VendorList.toJson
  | signals => (Signals.readFields f).map Signals.toJson
  | attributes => (Attributes.readFields f).map Attributes.toJson
  | identity => (Identity.readFields f).map Identity.toJson
  | decision => (Decision.readFields f).map Decision.toJson

/-- A truth value counts as 0 or 1 where integers are held. -/
def truthAsInt : Json → Json
  | .bool b => .int (if b then 1 else 0)
  | j => j

/-- A value that nobody checked, as its field shows it. Consent shows everything as it is. -/
def shownValue (k : RecordKind) (field : String) (value : Json) : Json :=
  match k, field, value with
  | consent, _, j => j
  | decision, "requested_purposes", .array items =>
    (Json.array (items.map truthAsInt)).withoutNonFinite
  | decision, "vendor_id", j | decision, "vendor_list_version", j =>
    (truthAsInt j).withoutNonFinite
  | _, _, j => j.withoutNonFinite

/-- What a record shows beside a field follows from what the field holds. -/
def derivedFields (k : RecordKind) (field : String) (value : Json) : Json.Fields :=
  match k, field, value with
  | decision, "provenance", .null => [("personalized", .bool false)]
  | decision, "provenance", _ => [("personalized", .bool true)]
  | _, _, _ => []

def isNote (field : String) : Bool := field.toList.head? = some '_'

def derivedNames : RecordKind → List String
  | decision => ["model_extra", "model_fields_set", "personalized"]
  | _ => ["model_extra", "model_fields_set"]

/-- A shown record after a field was set. Nothing about the value is checked. -/
def assign (k : RecordKind) (shown : Json) (field : String) (value : Json) :
    Except AssignmentError Json :=
  if isNote field then .ok shown
  else if k.isFrozen then .error (.frozen field)
  else if k.derivedNames.contains field then .error (.readOnly k field)
  else if !k.fieldNames.contains field then .error (.noField k field)
  else match shown with
    | .object fields =>
      let changed : Json.Fields :=
        (field, k.shownValue field value) :: k.derivedFields field value
      .ok (.object (OrderedMap.ofPairs (fields ++ changed)))
    | j => .ok j

end RecordKind

def AssignmentError.message : AssignmentError → String
  | frozen _ => Schema.Fault.frozen.message
  | readOnly kind field =>
    "property '" ++ field ++ "' of '" ++ kind.name ++ "' object has no setter"
  | noField kind field => "\"" ++ kind.name ++ "\" object has no field \"" ++ field ++ "\""

end ConsentGate
