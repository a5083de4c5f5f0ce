import ConsentGate.Http.Query
import ConsentGate.OrderedMap
import ConsentGate.Text.Blank

namespace ConsentGate.Http

abbrev Cookies := OrderedMap String String

namespace Cookies

def isOctal (c : Char) : Bool := '0' ≤ c ∧ c ≤ '7'

def octalValue (a b c : Char) : Nat :=
  (a.toNat - 0x30) * 64 + (b.toNat - 0x30) * 8 + (c.toNat - 0x30)

def unescapeOne (c : Char) : List Char := if c = '\n' then ['\\', c] else [c]

/-- A backslash stands before a quoted character or before the three octal digits of one. No line
feed is quoted. -/
def unescape : List Char → List Char
  | '\\' :: a :: b :: c :: rest =>
    if isOctal a && a ≤ '3' && isOctal b && isOctal c then
      Char.ofNat (octalValue a b c) :: unescape rest
    else unescapeOne a ++ unescape (b :: c :: rest)
  | '\\' :: a :: rest => unescapeOne a ++ unescape rest
  | c :: rest => c :: unescape rest
  | [] => []

def unquote (cs : List Char) : List Char :=
  match cs with
  | '\x22' :: rest => if rest.getLast? = some '\x22' then unescape rest.dropLast else cs
  | _ => cs

def isToken (c : Char) : Bool :=
  c.isAlphanum || "!#$%&'*+-.^_\x60|~:".toList.contains c

def isUnescaped (c : Char) : Bool :=
  isToken c || " ()/<=>?@[]\x7b\x7d".toList.contains c

def octal (n : Nat) : List Char :=
  [Nat.digitChar (n / 64 % 8), Nat.digitChar (n / 8 % 8), Nat.digitChar (n % 8)]

def escape (c : Char) : List Char :=
  if c = '\x22' ∨ c = '\\' then ['\\', c]
  else if isUnescaped c || Latin1.isWide (.scalar c) then [c]
  else '\\' :: octal c.toNat

def isTokenPoint : CodePoint → Bool
  | .scalar c => isToken c
  | .surrogate _ => false

def escapePoint : CodePoint → Text
  | .scalar c => .ofChars (escape c)
  | .surrogate i => [.surrogate i]

def quote (t : Text) : Text :=
  if !t.isEmpty && t.all isTokenPoint then t
  else .scalar '\x22' :: t.flatMap escapePoint ++ [.scalar '\x22']

/-- A part without an equals sign is a value without a name. -/
def readPart (cs : List Char) : Option (String × String) :=
  let before := cs.takeWhile (· != '=')
  let (name, value) :=
    if before.length < cs.length then (before, cs.drop (before.length + 1)) else ([], cs)
  let name := trim isBlank name
  let value := trim isBlank value
  if name.isEmpty && value.isEmpty then none
  else some (.ofList name, .ofList (unquote value))

def pairsOf (header : String) : List (String × String) :=
  (Query.splitOn ';' header.toList).filterMap readPart

/-- Of equal names the last value counts, also across headers. -/
def ofHeaders (headers : List String) : Cookies := OrderedMap.ofPairs (headers.flatMap pairsOf)

def yearInSeconds : Nat := 31536000

/-- A header that stores a value for a year, for secure requests only. Without a domain it is
for the host alone. -/
def setting (name : String) (value domain : Text) : Text :=
  Text.ofString name ++ .scalar '=' :: quote value ++
    (if domain.isEmpty then [] else Text.ofString "; Domain=" ++ domain) ++
    Text.ofString s!"; Max-Age={yearInSeconds}; Path=/; SameSite=lax; Secure"

end Cookies

end ConsentGate.Http
