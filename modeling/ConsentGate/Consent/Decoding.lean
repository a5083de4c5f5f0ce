import ConsentGate.Consent.Basic
import ConsentGate.Signals

namespace ConsentGate

inductive Decoded where
  | model (m : TcfModel)
  /-- Something with attributes, none of which has been looked at. -/
  | loose (attributes : Json.Fields)
  | stranger (kind : String)

inductive DecodeFailure where
  | refused (message : Text)
  | broken (kind : String) (message : Text)
  | invalid

abbrev Decoder := Text → Except DecodeFailure Decoded

/-- The decoder that also keeps a list of what it is asked. -/
def Decoder.recorded (decode : Decoder) (tcString : Text) :
    StateM (List Text) (Except DecodeFailure Decoded) := do
  modify (· ++ [tcString])
  return decode tcString

namespace DecodeFailure

def event : DecodeFailure → Event
  | refused message => .decodeFailed message none
  | broken kind message => .decodeFailed message (some kind)
  | invalid => .decodeFailed "<validation>" (some "ValidationError")

end DecodeFailure

namespace Decoded

def number? : Json → Option Rat
  | .bool b => some (if b then 1 else 0)
  | .int n => some n
  | .decimal d => d.toRat?
  | _ => none

/-- What tells a key from others. Numbers that are equal are one key, of whatever kind they are. -/
inductive Key where
  | null
  | number (r : Rat)
  | nonFinite (x : NonFinite)
  | string (s : String)
  | brokenString (t : Text)
deriving DecidableEq

def key? : Json → Option Key
  | .null => some .null
  | .nonFinite x => some (.nonFinite x)
  | .string s => some (.string s)
  | .brokenString t => some (.brokenString t)
  | j => (number? j).map .number

def sameKey (a b : Json) : Bool := (key? a).any (key? b = some ·)

def addKey (keys : List Json) (j : Json) : List Json :=
  if keys.any (sameKey j) then keys else keys ++ [j]

/-- The values that an attribute runs through: the items of a list, the keys of an object, the
characters of a text. -/
def items : Json → Except DecodeFailure (List Json)
  | .array js => .ok js
  | .object fields => .ok (fields.map fun (k, _) => .ofText k)
  | .string s => .ok (s.toList.map fun c => .string c.toString)
  | .brokenString t => .ok (t.map fun p => .ofText [p])
  | j => .error (.broken "TypeError" ("'" ++ j.kindName ++ "' object is not iterable"))

/-- Lists and objects cannot be keys. -/
def collect (keys : List Json) : List Json → Except DecodeFailure (List Json)
  | [] => .ok keys
  | .array _ :: _ => .error (.broken "TypeError" "unhashable type: 'list'")
  | .object _ :: _ => .error (.broken "TypeError" "unhashable type: 'dict'")
  | j :: rest => collect (addKey keys j) rest

def lacks (kind name : String) : DecodeFailure :=
  .broken "AttributeError" ("'" ++ kind ++ "' object has no attribute '" ++ name ++ "'")

def idsOf : Decoded → TcfModel.Field → Except DecodeFailure (List Json)
  | model m, f => .ok ((m.get f).map .int)
  | stranger kind, f => .error (lacks kind f.name)
  | loose attributes, f =>
    match attributes.lookup (f.name : Text) with
    | none => .error (lacks "types.SimpleNamespace" f.name)
    | some j => do collect [] (← items j)

def ids (d : Decoded) : Except DecodeFailure (List Json × List Json) := do
  let purposes ← d.idsOf .purposes
  let vendors ← d.idsOf .vendors
  return (purposes, vendors)

end Decoded

namespace Consent

def granting (ids : List Json) : Schema.Reading (OrderedMap Int Bool) :=
  Schema.readEntries Schema.readBool (ids.map fun id => (id, .bool true))

/-- Whether the regulation applies is told by there being a consent string. -/
def ofDecoded (now : Moment) (tcString : Text) (d : Decoded) : Logged DecodeFailure Consent := do
  let (purposes, vendors) ← Logged.ofExcept d.ids
  let gdprApplies := tcString ≠ []
  Logged.log (.consentParsed purposes.length vendors.length gdprApplies)
  match granting purposes, granting vendors with
  | .value ps, .value vs =>
    return { tcString, gdprApplies, purposes := ps, vendors := vs, timestamp := now }
  | _, _ => Logged.throw .invalid

def questions (decoder : Option Decoder) (tcString : Text) : List Text :=
  match decoder with
  | some _ => if tcString = [] then [] else [tcString]
  | none => []

/-- What an answer of the decoder comes to. No failure gets further than the log. -/
def ofAnswer (now : Moment) (tcString : Text) :
    Except DecodeFailure Decoded → Option Consent × List Event
  | .error f => (none, [f.event])
  | .ok d =>
    let x := ofDecoded now tcString d
    match x.result with
    | .ok c => (some c, x.events)
    | .error f => (none, x.events ++ [f.event])

/-- The consent that a string stands for, if it can be found out, in any setting in which the
decoder is asked. -/
def parseIn {m : Type → Type} [Monad m] (now : Moment)
    (decoder : Option (Text → m (Except DecodeFailure Decoded))) (tcString : Text) :
    m (Option Consent × List Event) :=
  if tcString = [] then pure (none, [])
  else match decoder with
    | none => pure (none, [.decoderNotConfigured])
    | some decode => ofAnswer now tcString <$> decode tcString

def parse (now : Moment) (decoder : Option Decoder) (tcString : Text) :
    Option Consent × List Event := Id.run (parseIn now decoder tcString)

def cookieName : String := "euconsent-v2"

def ofSignals (now : Moment) (decoder : Option Decoder) (s : Signals) : Consent × List Event :=
  match s.cookie cookieName with
  | none => (denied now, [.consentCookieMissing])
  | some tcString =>
    let (c, events) := parse now decoder tcString
    (c.getD (denied now), events)

section

variable {now : Moment} {decoder : Option Decoder} {decode : Decoder} {tcString : Text}

@[simp] theorem parse_empty : parse now decoder [] = (none, []) := rfl

theorem parse_without_decoder (h : tcString ≠ []) :
    parse now none tcString = (none, [.decoderNotConfigured]) := by
  rw [parse, parseIn, if_neg h]
  rfl

theorem parse_with_decoder (h : tcString ≠ []) :
    parse now (some decode) tcString = ofAnswer now tcString (decode tcString) := by
  rw [parse, parseIn, if_neg h]
  rfl

end

end Consent

end ConsentGate
