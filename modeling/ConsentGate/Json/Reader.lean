import ConsentGate.Json.Basic

namespace ConsentGate.Json

inductive ReadError where
  | malformed
  | nestedArray
  | nestedObject
deriving DecidableEq

namespace Reader

def orMalformed {α : Type} (found : Option α) : Except ReadError α :=
  found.elim (.error .malformed) .ok

def isSkipped (c : Char) : Bool := c == ' ' || c == '\n' || c == '\r' || c == '\t'

def skip (cs : List Char) : List Char := cs.dropWhile isSkipped

def expect (word : List Char) (cs : List Char) : Option (List Char) :=
  if word.isPrefixOf cs then some (cs.drop word.length) else none

def hexDigit? (c : Char) : Option Nat :=
  if c.isDigit then some (c.toNat - 0x30)
  else if 'a' ≤ c ∧ c ≤ 'f' then some (c.toNat - 0x61 + 10)
  else if 'A' ≤ c ∧ c ≤ 'F' then some (c.toNat - 0x41 + 10)
  else none

def hex4 : List Char → Option (Nat × List Char)
  | a :: b :: c :: d :: rest => do
    let ds ← [a, b, c, d].mapM hexDigit?
    some (ds.foldl (fun n d => n * 16 + d) 0, rest)
  | _ => none

def secondHalf : List Char → Option (Nat × List Char)
  | '\\' :: 'u' :: rest => do
    let (n, rest) ← hex4 rest
    if 0xDC00 ≤ n ∧ n < 0xE000 then some (n, rest) else none
  | _ => none

/-- A character past U+FFFF is written as two halves. Either half may stand alone. -/
def escapedUnit (cs : List Char) : Option (CodePoint × List Char) := do
  let (n, rest) ← hex4 cs
  if n < 0xD800 ∨ 0xDC00 ≤ n then some (.ofNat n, rest)
  else match secondHalf rest with
    | some (low, rest) => some (.ofNat (0x10000 + (n - 0xD800) * 0x400 + (low - 0xDC00)), rest)
    | none => some (.ofNat n, rest)

def escaped : List Char → Option (CodePoint × List Char)
  | 'u' :: rest => escapedUnit rest
  | 'n' :: rest => some (.scalar '\n', rest)
  | 't' :: rest => some (.scalar '\t', rest)
  | 'r' :: rest => some (.scalar '\r', rest)
  | 'b' :: rest => some (.scalar '\x08', rest)
  | 'f' :: rest => some (.scalar '\x0C', rest)
  | c :: rest => if c = '\x22' ∨ c = '\\' ∨ c = '/' then some (.scalar c, rest) else none
  | [] => none

def stringBody (read : Text) : (fuel : Nat) → List Char → Option (Text × List Char)
  | 0, _ => none
  | _ + 1, [] => none
  | fuel + 1, c :: rest =>
    if c = '\x22' then some (read.reverse, rest)
    else if c = '\\' then
      match escaped rest with
      | some (d, rest) => stringBody (d :: read) fuel rest
      | none => none
    else if c.toNat < 0x20 then none
    else stringBody (.scalar c :: read) fuel rest

def fraction : List Char → List Char × List Char
  | '.' :: c :: rest =>
    if c.isDigit then ((c :: rest).takeWhile Char.isDigit, (c :: rest).dropWhile Char.isDigit)
    else ([], '.' :: c :: rest)
  | cs => ([], cs)

def exponent (cs : List Char) : Option Int × List Char :=
  match cs with
  | e :: rest =>
    if e = 'e' ∨ e = 'E' then
      let (negative, digits) := match rest with
        | '+' :: r => (false, r)
        | '-' :: r => (true, r)
        | r => (false, r)
      let ds := digits.takeWhile Char.isDigit
      if ds.isEmpty then (none, cs)
      else
        let n : Int := Decimal.natOf ds
        (some (if negative then -n else n), digits.dropWhile Char.isDigit)
    else (none, cs)
  | [] => (none, cs)

def number (negative : Bool) (cs : List Char) : Option (Json × List Char) := do
  let whole := if cs.head? = some '0' then ['0'] else cs.takeWhile Char.isDigit
  if whole.isEmpty then none
  else
    let (part, rest) := fraction (cs.drop whole.length)
    let (e, rest) := exponent rest
    let n := Decimal.natOf (whole ++ part)
    if !part.isEmpty || e.isSome then
      some (.ofDecimal ⟨negative, n, e.getD 0 - part.length⟩, rest)
    else if Decimal.digitsLimit < whole.length then none
    else some (.int (if negative then -n else n), rest)

def anyNumber (cs : List Char) : Option (Json × List Char) :=
  match cs with
  | '-' :: 'I' :: _ => (expect NonFinite.minusInfinity.name.toList cs).map
      (.nonFinite .minusInfinity, ·)
  | 'I' :: _ => (expect NonFinite.infinity.name.toList cs).map (.nonFinite .infinity, ·)
  | 'N' :: _ => (expect NonFinite.nan.name.toList cs).map (.nonFinite .nan, ·)
  | '-' :: rest => number true rest
  | _ => number false cs

mutual

def value : (fuel levels : Nat) → List Char → Except ReadError (Json × List Char)
  | 0, _, _ => .error .malformed
  | fuel + 1, levels, cs =>
    match cs, levels with
    | '\x22' :: rest, _ => do
      let (s, rest) ← orMalformed (stringBody [] (rest.length + 1) rest)
      return (.ofText s, rest)
    | '[' :: _, 0 => .error .nestedArray
    | '\x7b' :: _, 0 => .error .nestedObject
    | '[' :: rest, levels + 1 =>
      match skip rest with
      | ']' :: rest => .ok (.array [], rest)
      | rest => (items fuel levels rest).map fun (js, rest) => (.array js, rest)
    | '\x7b' :: rest, levels + 1 =>
      match skip rest with
      | '\x7d' :: rest => .ok (.object [], rest)
      | rest =>
        (members fuel levels rest).map fun (ps, rest) => (.object (OrderedMap.ofPairs ps), rest)
    | 'n' :: _, _ => orMalformed ((expect "null".toList cs).map (.null, ·))
    | 't' :: _, _ => orMalformed ((expect "true".toList cs).map (.bool true, ·))
    | 'f' :: _, _ => orMalformed ((expect "false".toList cs).map (.bool false, ·))
    | _, _ => orMalformed (anyNumber cs)

def items : (fuel levels : Nat) → List Char → Except ReadError (List Json × List Char)
  | 0, _, _ => .error .malformed
  | fuel + 1, levels, cs => do
    let (j, rest) ← value fuel levels (skip cs)
    match skip rest with
    | ']' :: rest => return ([j], rest)
    | ',' :: rest =>
      let (js, rest) ← items fuel levels rest
      return (j :: js, rest)
    | _ => .error .malformed

def members : (fuel levels : Nat) → List Char →
    Except ReadError (List (Text × Json) × List Char)
  | 0, _, _ => .error .malformed
  | fuel + 1, levels, cs =>
    match skip cs with
    | '\x22' :: rest => do
      let (k, rest) ← orMalformed (stringBody [] (rest.length + 1) rest)
      match skip rest with
      | ':' :: rest =>
        let (j, rest) ← value fuel levels (skip rest)
        match skip rest with
        | '\x7d' :: rest => return ([(k, j)], rest)
        | ',' :: rest =>
          let (ps, rest) ← members fuel levels rest
          return ((k, j) :: ps, rest)
        | _ => .error .malformed
      | _ => .error .malformed
    | _ => .error .malformed

end

end Reader

/-- One value with nothing but blanks around it. Every call goes at least one character on. -/
def parseWithin (levels : Nat) (s : String) : Except ReadError Json := do
  let cs := s.toList
  let (j, rest) ← Reader.value (2 * cs.length + 2) levels (Reader.skip cs)
  if (Reader.skip rest).isEmpty then return j else .error .malformed

/-- No text has more levels than characters. -/
def parse? (s : String) : Option Json := (parseWithin s.length s).toOption

end ConsentGate.Json
