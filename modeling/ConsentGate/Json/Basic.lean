import ConsentGate.Json.Decimal
import ConsentGate.OrderedMap
import ConsentGate.Text.CodePoint

namespace ConsentGate

inductive NonFinite where
  | nan
  | infinity
  | minusInfinity
deriving DecidableEq, Inhabited

namespace NonFinite

def name : NonFinite → String
  | nan => "NaN"
  | infinity => "Infinity"
  | minusInfinity => "-Infinity"

end NonFinite

inductive Json where
  | null
  | bool (b : Bool)
  | int (n : Int)
  | decimal (d : Decimal)
  | nonFinite (x : NonFinite)
  | string (s : String)
  /-- A text in which half of a pair stands alone. -/
  | brokenString (t : Text)
  | array (items : List Json)
  | object (fields : List (Text × Json))
deriving Inhabited

namespace Json

abbrev Fields := OrderedMap Text Json

def get? (j : Json) (name : String) : Option Json :=
  match j with
  | object fields => fields.lookup (name : Text)
  | _ => none

def isFalsy : Json → Bool
  | null => true
  | bool b => !b
  | int n => n == 0
  | decimal d => d.magnitude? == some 0
  | nonFinite _ => false
  | string s => s.isEmpty
  | brokenString t => t.isEmpty
  | array items => items.isEmpty
  | object fields => fields.isEmpty

def kindName : Json → String
  | null => "NoneType"
  | bool _ => "bool"
  | int _ => "int"
  | decimal _ | nonFinite _ => "float"
  | string _ | brokenString _ => "str"
  | array _ => "list"
  | object _ => "dict"

def ofOption {α : Type} (f : α → Json) : Option α → Json
  | none => null
  | some a => f a

def ofText (t : Text) : Json :=
  match t.chars? with
  | some cs => string (.ofList cs)
  | none => brokenString t

def ofDecimal (d : Decimal) : Json :=
  if d.magnitude?.isSome then decimal d
  else nonFinite (if d.negative then .minusInfinity else .infinity)

def ints (ns : List Int) : Json := array (ns.map int)

mutual

/-- With null in the place of every number that no digits write. -/
def withoutNonFinite : Json → Json
  | nonFinite _ => null
  | array items => array (itemsWithoutNonFinite items)
  | object fields => object (fieldsWithoutNonFinite fields)
  | j => j

def itemsWithoutNonFinite : List Json → List Json
  | [] => []
  | j :: rest => withoutNonFinite j :: itemsWithoutNonFinite rest

def fieldsWithoutNonFinite : List (Text × Json) → List (Text × Json)
  | [] => []
  | (k, v) :: rest => (k, withoutNonFinite v) :: fieldsWithoutNonFinite rest

end

end Json

end ConsentGate
