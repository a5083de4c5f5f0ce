import ConsentGate.Schema.Scalar
import ConsentGate.Text.Case

namespace ConsentGate

structure Signals where
  /-- Names are in lower case. -/
  headers : OrderedMap Text Text := []
  cookies : OrderedMap Text Text := []
  clientIp : Option Text := none
deriving Inhabited

namespace Signals

/-- Of names that differ in case alone the last value counts. -/
def lowerNames (headers : OrderedMap Text Text) : OrderedMap Text Text :=
  OrderedMap.ofPairs (headers.map fun (k, v) => (Case.lowerText k, v))

def ofParts (headers cookies : OrderedMap Text Text) (clientIp : Option Text) : Signals where
  headers := lowerNames headers
  cookies := cookies
  clientIp := clientIp

def header (s : Signals) (name : Text) : Option Text := s.headers.lookup (Case.lowerText name)

def cookie (s : Signals) (name : Text) : Option Text := s.cookies.lookup name

open Schema

def fieldNames : List String := ["headers", "cookies", "client_ip"]

def readFields (f : Json.Fields) : Reading Signals :=
  ofParts <$> field f "headers" readTextMap (some [])
    <*> field f "cookies" readTextMap (some [])
    <*> field f "client_ip" (optional readText) (some none)

def read : Json → Reading Signals := record "RequestSignals" readFields

def mapJson (m : OrderedMap Text Text) : Json := .object (m.map fun (k, v) => (k, .ofText v))

def toJson (s : Signals) : Json :=
  .object [("headers", mapJson s.headers), ("cookies", mapJson s.cookies),
    ("client_ip", .ofOption .ofText s.clientIp)]

end Signals

end ConsentGate
