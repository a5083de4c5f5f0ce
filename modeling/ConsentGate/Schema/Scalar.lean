import ConsentGate.Schema.Reading
import ConsentGate.Text.Blank
import ConsentGate.Time.Reader

namespace ConsentGate.Schema

def readText : Json → Reading Text
  | .string s => .value (.ofString s)
  | .brokenString t => .value t
  | _ => .fault .notString

/-- What follows zeros and underscores. Of nothing but those the last is left, and so is the one
before a point. -/
def afterZeros (last : Char) : List Char → Option (List Char)
  | [] => some [last]
  | c :: rest =>
    if c = '0' ∨ c = '_' then afterZeros c rest
    else if c = '.' then some (last :: c :: rest)
    else if c.isDigit || c == '-' then some (c :: rest)
    else none

def dropZeros : List Char → Option (List Char)
  | [] => none
  | c :: rest =>
    if c = '0' then afterZeros c rest
    else if c.isDigit then some (c :: rest)
    else none

/-- Zeros may stand on either side of a minus sign, though not on both. -/
def dropSignedZeros : List Char → Option (List Char)
  | '-' :: rest => (dropZeros rest).map ('-' :: ·)
  | cs => dropZeros cs

def dropFraction (cs : List Char) : List Char :=
  let whole := cs.takeWhile (· != '.')
  let zeros := cs.drop (whole.length + 1)
  if !zeros.isEmpty && zeros.all (· == '0') then whole else cs

def hasDoubleUnderscore : List Char → Bool
  | '_' :: '_' :: _ => true
  | _ :: rest => hasDoubleUnderscore rest
  | [] => false

def dropUnderscores (cs : List Char) : List Char :=
  if cs.head? = some '_' || cs.getLast? = some '_' || hasDoubleUnderscore cs then cs
  else cs.filter (· != '_')

def dropPlus : List Char → Option (List Char)
  | '+' :: '-' :: _ => none
  | '+' :: rest => some rest
  | cs => some cs

def bareDigits? (s : String) : Option (List Char) :=
  (dropPlus (trim isSpace s.toList) >>= dropSignedZeros).map (dropUnderscores ∘ dropFraction)

def natOfDigits? (ds : List Char) : Option Nat :=
  if !ds.isEmpty && ds.all Char.isDigit && (ds.head? != some '0' || ds.length == 1) &&
      ds.length ≤ Decimal.digitsLimit then some (Decimal.natOf ds)
  else none

def intOfDigits? : List Char → Option Int
  | '-' :: ds => (natOfDigits? ds).map fun n => -n
  | ds => (natOfDigits? ds).map Int.ofNat

/-- Too many digits at the very front, behind a minus sign or none. What follows does not count. -/
def startsOversized (s : String) : Bool :=
  let body := match s.toList with
    | '-' :: rest => rest
    | cs => cs
  body.head? != some '0' && Decimal.digitsLimit < (body.takeWhile Char.isDigit).length

def intOfString (s : String) : Reading Int :=
  if startsOversized s then .fault .oversizedInt
  else (bareDigits? s >>= intOfDigits?).elim (.fault .unreadableInt) .value

def floatingLimit : Nat := Nat.pow 2 63

def intOfDecimal (d : Decimal) : Reading Int :=
  match d.toRat? with
  | none => .fault .infiniteNumber
  | some r =>
    if !r.isInt then .fault .fractionalInt
    else if floatingLimit ≤ r.num.natAbs then .fault .oversizedInt
    else .value r.num

def readInt : Json → Reading Int
  | .int n => .value n
  | .bool b => .value (if b then 1 else 0)
  | .decimal d => intOfDecimal d
  | .nonFinite _ => .fault .infiniteNumber
  | .string s => intOfString s
  | .brokenString _ => .fault .brokenString
  | _ => .fault .notInt

def readIntAbove (bound : Int) (j : Json) : Reading Int :=
  (readInt j).andThen fun n => if bound < n then .value n else .fault (.notAbove bound)

def readIntFrom (bound : Int) (j : Json) : Reading Int :=
  (readInt j).andThen fun n => if bound ≤ n then .value n else .fault (.below bound)

def trueWords : List String := ["1", "t", "true", "y", "yes", "on"]

def falseWords : List String := ["0", "f", "false", "n", "no", "off"]

def boolOfString (s : String) : Reading Bool :=
  let word := s.map Char.toLower
  if trueWords.contains word then .value true
  else if falseWords.contains word then .value false
  else .fault .unreadableBool

def boolOfInt (n : Int) : Reading Bool :=
  if n = 1 then .value true
  else if n = 0 then .value false
  else if -floatingLimit ≤ n ∧ n < floatingLimit then .fault .unreadableBool
  else .fault .notBool

def boolOfDecimal (d : Decimal) : Reading Bool :=
  match intOfDecimal d with
  | .value n => boolOfInt n
  | .issues _ => .fault .notBool

def readBool : Json → Reading Bool
  | .bool b => .value b
  | .int n => boolOfInt n
  | .decimal d => boolOfDecimal d
  | .string s => boolOfString s
  | .brokenString _ => .fault .brokenString
  | _ => .fault .notBool

def heldMoment (m : Moment) : Reading Moment :=
  if m.inCalendar then .value m else .fault .unreadableMoment

def momentOfInt (n : Int) : Reading Moment :=
  if (Binary64.nearest n).isNone then .fault .notMoment
  else (Moment.ofInteger? n).elim (.fault .unreadableMoment) heldMoment

def readMoment : Json → Reading Moment
  | .string s => (Moment.ofWritten? s).elim (.fault .unreadableDate) heldMoment
  | .int n => momentOfInt n
  | .decimal d => (d.toRat?.bind Moment.ofFloat?).elim (.fault .unreadableMoment) heldMoment
  | .nonFinite _ => .fault .unreadableMoment
  | .brokenString _ => .fault .brokenString
  | _ => .fault .notMoment

def readWord {α : Type} (fault : List String → Fault) (words : List (String × α)) :
    Json → Reading α
  | .string s =>
    match words.lookup s with
    | some a => .value a
    | none => .fault (fault (words.map (·.1)))
  | .brokenString _ => .fault .brokenString
  | _ => .fault (fault (words.map (·.1)))

def readList {α : Type} (read : Json → Reading α) : Json → Reading (List α)
  | .array items => .eachFrom read 0 items
  | _ => .fault .notList

def readTextMap : Json → Reading (OrderedMap Text Text)
  | .object fields =>
    (Reading.each (fun (k, v) => ((readText v).under (.entry (.ofText k))).map (k, ·))
      fields).map OrderedMap.ofPairs
  | _ => .fault .notMap

/-- One entry of a map with integer keys; issues of the key come first. -/
def readEntry {α : Type} (read : Json → Reading α) (entry : Json × Json) : Reading (Int × α) :=
  (((readInt entry.1).under .entryKey).under (.entry entry.1)).map Prod.mk |>.seq
    ((read entry.2).under (.entry entry.1))

/-- Keys that read as the same integer are one key. -/
def readEntries {α : Type} (read : Json → Reading α) (entries : List (Json × Json)) :
    Reading (OrderedMap Int α) :=
  (Reading.each (readEntry read) entries).map OrderedMap.ofPairs

def readIntMap {α : Type} (read : Json → Reading α) : Json → Reading (OrderedMap Int α)
  | .object fields => readEntries read (fields.map fun (k, v) => (.ofText k, v))
  | _ => .fault .notMap

end ConsentGate.Schema
