import ConsentGate.Http.Query

namespace ConsentGate.Http.Host

open Decimal (natOf)

def isHexDigit (c : Char) : Bool := (Json.Reader.hexDigit? c).isSome

def isPlainChar (c : Char) : Bool := c.isAlphanum || "-._~!$&'()*+,;=".toList.contains c

def isNameChar (c : Char) : Bool := isPlainChar c || c == '%'

def isPort (cs : List Char) : Bool := !cs.isEmpty && cs.all Char.isDigit && natOf cs ≤ 65535

def isOctet (cs : List Char) : Bool :=
  !cs.isEmpty && cs.length ≤ 3 && cs.all Char.isDigit && natOf cs ≤ 255 &&
    (cs.length = 1 || cs.head? != some '0')

def isIPv4 (cs : List Char) : Bool :=
  let parts := Query.splitOn '.' cs
  parts.length = 4 && parts.all isOctet

def isGroup (cs : List Char) : Bool := !cs.isEmpty && cs.length ≤ 4 && cs.all isHexDigit

/-- The number of groups between colons. Only at the end may an IPv4 address stand for two. -/
def groups? (atEnd : Bool) (cs : List Char) : Option Nat :=
  if cs.isEmpty then some 0
  else
    let parts := Query.splitOn ':' cs
    if parts.all isGroup then some parts.length
    else if atEnd && parts.dropLast.all isGroup && parts.getLast?.any isIPv4 then
      some (parts.length + 1)
    else none

/-- The parts around the first double colon. What was read is in reverse. -/
def splitDouble (read : List Char) : List Char → Option (List Char × List Char)
  | ':' :: ':' :: rest => some (read.reverse, rest)
  | c :: rest => splitDouble (c :: read) rest
  | [] => none

def isIPv6 (cs : List Char) : Bool :=
  match splitDouble [] cs with
  | some (before, after) =>
    match groups? false before, groups? true after with
    | some m, some n => m + n < 8
    | _, _ => false
  | none => groups? true cs = some 8

def isFutureAddress : List Char → Bool
  | 'v' :: rest =>
    let version := rest.takeWhile isHexDigit
    match rest.drop version.length with
    | '.' :: body => !version.isEmpty && !body.isEmpty && body.all fun c => isPlainChar c || c == ':'
    | _ => false
  | _ => false

def isRest : List Char → Bool
  | [] => true
  | ':' :: port => isPort port
  | _ => false

def isWellFormed (host : String) : Bool :=
  match host.toList with
  | '[' :: rest =>
    let address := rest.takeWhile (· != ']')
    (isIPv6 address || isFutureAddress address) &&
      match rest.drop address.length with
      | _ :: rest => isRest rest
      | [] => false
  | cs =>
    let name := cs.takeWhile isNameChar
    !name.isEmpty && isRest (cs.drop name.length)

end ConsentGate.Http.Host
