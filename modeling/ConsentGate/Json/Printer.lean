import ConsentGate.Json.Basic
import ConsentGate.Text.Quoted

namespace ConsentGate.Json

def utf16 (c : Char) : List Nat :=
  if c.toNat < 0x10000 then [c.toNat]
  else
    let n := c.toNat - 0x10000
    [0xD800 + n / 0x400, 0xDC00 + n % 0x400]

def escapeUnit (n : Nat) : List Char := '\\' :: 'u' :: Quoted.hex n 4

def escapeChar (c : Char) : List Char :=
  if c = '\x22' ∨ c = '\\' then ['\\', c]
  else if c = '\n' then ['\\', 'n']
  else if c = '\r' then ['\\', 'r']
  else if c = '\t' then ['\\', 't']
  else if 0x20 ≤ c.toNat ∧ c.toNat < 0x7F then [c]
  else (utf16 c).flatMap escapeUnit

def escapePoint : CodePoint → List Char
  | .scalar c => escapeChar c
  | .surrogate i => escapeUnit (0xD800 + i)

def quoteText (t : Text) : String := .ofList ('\x22' :: t.flatMap escapePoint ++ ['\x22'])

def quoteString (s : String) : String := quoteText (.ofString s)

mutual

def print : Json → String
  | null => "null"
  | bool b => if b then "true" else "false"
  | int n => toString n
  | decimal d => d.toString
  | nonFinite x => x.name
  | string s => quoteString s
  | brokenString t => quoteText t
  | array items => "[" ++ ",".intercalate (printItems items) ++ "]"
  | object fields => "\x7b" ++ ",".intercalate (printFields fields) ++ "\x7d"

def printItems : List Json → List String
  | [] => []
  | j :: rest => print j :: printItems rest

def printFields : List (Text × Json) → List String
  | [] => []
  | (k, v) :: rest => (quoteText k ++ ":" ++ print v) :: printFields rest

end

end ConsentGate.Json
