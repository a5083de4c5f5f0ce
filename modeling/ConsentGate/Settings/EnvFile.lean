import ConsentGate.Text.Blank
import ConsentGate.OrderedMap

namespace ConsentGate

abbrev Environment := OrderedMap String String

/-- The lines of a settings file; a name without an equals sign has no value. -/
abbrev EnvFile := OrderedMap String (Option String)

namespace EnvFile

def isLineBlank (c : Char) : Bool := isBlank c && c != '\n'

def unifyLines : List Char → List Char
  | '\r' :: '\n' :: rest => '\n' :: unifyLines rest
  | '\r' :: rest => '\n' :: unifyLines rest
  | c :: rest => c :: unifyLines rest
  | [] => []

/-- A value up to the first quote that no backslash belongs to. What was read is in reverse. -/
def quotedBody (mark : Char) (read : List Char) : List Char → Option (List Char × List Char)
  | [] => none
  | '\\' :: c :: rest => quotedBody mark (c :: '\\' :: read) rest
  | c :: rest =>
    if c = mark then some (read.reverse, rest) else quotedBody mark (c :: read) rest

def escapedChar (mark c : Char) : Option Char :=
  if c = '\\' ∨ c = '\x27' then some c
  else if mark = '\x27' then none
  else match c with
    | '\x22' => some '\x22'
    | 'a' => some '\x07'
    | 'b' => some '\x08'
    | 'f' => some '\x0C'
    | 'n' => some '\n'
    | 'r' => some '\r'
    | 't' => some '\t'
    | 'v' => some '\x0B'
    | _ => none

def unescape (mark : Char) : List Char → List Char
  | '\\' :: c :: rest =>
    match escapedChar mark c with
    | some d => d :: unescape mark rest
    | none => '\\' :: unescape mark (c :: rest)
  | c :: rest => c :: unescape mark rest
  | [] => []

def dropComment : List Char → List Char
  | [] => []
  | c :: rest =>
    if isBlank c && ((c :: rest).dropWhile isBlank).head? == some '#' then []
    else c :: dropComment rest

def bareValue (line : List Char) : List Char := trim isBlank (dropComment line)

def takeLine (cs : List Char) : List Char × List Char := cs.span (· != '\n')

/-- What stands behind an equals sign. Where reading fails, the rest of the line is passed over. -/
def readValue (cs : List Char) : Except (List Char) (String × List Char) :=
  let body := cs.dropWhile isLineBlank
  let mark := body.head?.getD '\n'
  if mark = '\x27' ∨ mark = '\x22' then
    match quotedBody mark [] body.tail with
    | some (value, rest) => .ok (.ofList (unescape mark value), rest)
    | none => .error body
  else
    let (line, rest) := takeLine cs
    .ok (.ofList (bareValue line), rest)

def dropExport (cs : List Char) : List Char :=
  let word := "export".toList
  let rest := cs.drop word.length
  if word.isPrefixOf cs && rest.head?.any isLineBlank then rest.dropWhile isLineBlank else cs

def readName (cs : List Char) : Except (List Char) (Option String × List Char) :=
  match cs with
  | '#' :: _ => .ok (none, cs)
  | '\x27' :: rest =>
    let (name, after) := rest.span (· != '\x27')
    if name.isEmpty || after.isEmpty then .error cs else .ok (some (.ofList name), after.drop 1)
  | _ =>
    let (name, after) := cs.span fun c => !(c == '=' || c == '#' || isBlank c)
    if name.isEmpty then .error cs else .ok (some (.ofList name), after)

def readEnd (cs : List Char) : Except (List Char) (List Char) :=
  let cs := match cs.dropWhile isLineBlank with
    | '#' :: rest => rest.dropWhile (· != '\n')
    | _ => cs
  match cs.dropWhile isLineBlank with
  | [] => .ok []
  | '\n' :: rest => .ok rest
  | _ => .error cs

def readLine (cs : List Char) :
    Except (List Char) (Option (String × Option String) × List Char) := do
  let (name, cs) ← readName (dropExport cs)
  let cs := cs.dropWhile isLineBlank
  let (value, cs) ← match cs with
    | '=' :: rest => (readValue rest).map fun (v, r) => (some v, r)
    | _ => .ok (none, cs)
  let cs ← readEnd cs
  return (name.map (·, value), cs)

/-- Every call takes at least one character. -/
def readLines : (fuel : Nat) → List Char → List (String × Option String)
  | 0, _ => []
  | fuel + 1, cs =>
    match cs.dropWhile isBlank with
    | [] => []
    | cs =>
      match readLine cs with
      | .ok (binding, rest) => binding.toList ++ readLines fuel rest
      | .error rest => readLines fuel (rest.dropWhile (· != '\n'))

/-- What stands between the braces of a reference, and the text after it: a name and, behind a
colon and a hyphen, what to take if there is no such name. -/
def readReference (cs : List Char) : Option ((String × Option String) × List Char) :=
  let (name, rest) := cs.span fun c => !(c == '\x7d' || c == ':')
  match rest with
  | '\x7d' :: rest => some ((.ofList name, none), rest)
  | ':' :: '-' :: rest =>
    match rest.span (· != '\x7d') with
    | (instead, _ :: rest) => some ((.ofList name, some (.ofList instead)), rest)
    | _ => none
  | _ => none

def interpolate (value : String → Option (Option String)) : (fuel : Nat) → List Char → List Char
  | 0, cs => cs
  | _ + 1, [] => []
  | fuel + 1, '$' :: '\x7b' :: rest =>
    match readReference rest with
    | some ((name, instead), rest) =>
      (((value name).getD (some (instead.getD ""))).getD "").toList ++ interpolate value fuel rest
    | none => '$' :: interpolate value fuel ('\x7b' :: rest)
  | fuel + 1, c :: rest => c :: interpolate value fuel rest

/-- Names that were set before win over the environment. -/
def resolve (env : Environment) (read : EnvFile) : List (String × Option String) → EnvFile
  | [] => read
  | (name, value) :: rest =>
    let known := fun n => (read.lookup n).or ((env.lookup n).map some)
    let value := value.map fun v =>
      String.ofList (interpolate known (v.toList.length + 1) v.toList)
    resolve env (read.put name value) rest

/-- The text is taken as plain UTF-8, which keeps a mark of the byte order, but who reads the lines
passes over one at the very beginning: it is no part of the first name. -/
def dropOrderMark : List Char → List Char
  | '\uFEFF' :: rest => rest
  | cs => cs

def ofString (env : Environment) (text : String) : EnvFile :=
  let cs := unifyLines (dropOrderMark text.toList)
  resolve env [] (readLines (cs.length + 1) cs)

end EnvFile

end ConsentGate
