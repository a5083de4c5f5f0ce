import ConsentGate.Json.Reader
import ConsentGate.Settings.EnvFile
import ConsentGate.Text.Case

namespace ConsentGate.Settings

inductive Source where
  | environment
  | envFile
deriving DecidableEq

def Source.name : Source → String
  | environment => "EnvSettingsSource"
  | envFile => "DotEnvSettingsSource"

inductive SectionError where
  /-- Its text in this source is not JSON. -/
  | unreadable (name : String) (source : Source)
  /-- It has too many levels of what this word names. -/
  | tooDeep (kind : String)
deriving DecidableEq

def SectionError.message : SectionError → String
  | unreadable name source =>
    "error parsing value for field \"" ++ name ++ "\" from source \"" ++ source.name ++ "\""
  | tooDeep kind =>
    "maximum recursion depth exceeded while decoding a JSON " ++ kind ++ " from a unicode string"

/-- The interpreter lets 1000 calls stand within one another, of which a reader of JSON takes one a
level. Some twenty are under way by then where settings are loaded at the top of a program. -/
def levelLimit : Nat := 980

def sectionText (name : String) (source : Source) (text : String) : Except SectionError Json :=
  (Json.parseWithin levelLimit text).mapError fun
    | .malformed => .unreadable name source
    | .nestedArray => .tooDeep "array"
    | .nestedObject => .tooDeep "object"

def plainNames : List String := ["app_env", "log_level", "log_json"]

/-- The sections with the names of their settings. -/
def sections : List (String × List String) :=
  [("publisher", ["domain", "cookie_domain"]), ("synthetic", ["secret_key", "template"]),
    ("consent", ["vendor_id", "validate_with_vendor_list", "vendor_list_refresh_days",
      "vendor_list_retry_minutes"])]

def mark : String := "trusted_server__"

/-- Cuts at every pair of underscores, from left to right. -/
def splitName (current : List Char) : List Char → List String
  | '_' :: '_' :: rest => String.ofList current.reverse :: splitName [] rest
  | c :: rest => splitName (c :: current) rest
  | [] => [String.ofList current.reverse]

def insertAt (value : Json) : (way : List String) → Json.Fields → Json.Fields
  | [], fields => fields
  | [name], fields => fields.put name value
  | name :: way, fields =>
    match fields.lookup (name : Text) with
    | none => fields.put name (.object (insertAt value way []))
    | some (.object inner) => fields.put name (.object (insertAt value way inner))
    | some _ => fields

/-- The names of a source in lower case; of names that differ in case alone the last counts. -/
def lowerNames (vars : List (String × Option String)) : EnvFile :=
  OrderedMap.ofPairs (vars.map fun (k, v) => (Case.lower k, v))

def gather (name : String) (vars : EnvFile) : Json.Fields :=
  let start := (mark ++ name ++ "__").toList
  vars.foldl (fun fields (k, v) =>
    if start.isPrefixOf k.toList then
      insertAt (.ofOption .string v) (splitName [] (k.toList.drop start.length)) fields
    else fields) []

mutual

def mergeJson (below above : Json) : Json :=
  match below, above with
  | .object a, .object b => .object (merge a b)
  | _, b => b
termination_by sizeOf above

def merge (below : Json.Fields) (above : Json.Fields) : Json.Fields :=
  match above with
  | [] => below
  | (k, v) :: rest =>
    match below.lookup k with
    | some old => merge (below.put k (mergeJson old v)) rest
    | none => merge (below.put k v) rest
termination_by sizeOf above

end

def matchNames (known : List String) (fields : Json.Fields) : Json.Fields :=
  OrderedMap.ofPairs (fields.map fun (k, v) =>
    (((known.map Text.ofString).find? (· = Case.lowerText k)).getD k, v))

/-- A section is given as JSON, by variables for its parts, which win, or not at all. -/
def readSection (source : Source) (vars : EnvFile) (name : String) (known : List String) :
    Except SectionError (Option Json) :=
  let parts := gather name vars
  match vars.lookup (mark ++ name) with
  | some (some text) => do
    match ← sectionText name source text with
    | .null => return none
    | .object fields => return some (.object (matchNames known (merge fields parts)))
    | j => return some j
  | _ => .ok (if parts.isEmpty then none else some (.object (matchNames known parts)))

def readSections (source : Source) (vars : EnvFile) :
    List (String × List String) → Except SectionError Json.Fields
  | [] => .ok []
  | (name, known) :: rest => do
    let value ← readSection source vars name known
    let others ← readSections source vars rest
    return (value.map ((name : Text), ·)).toList ++ others

def readSource (source : Source) (vars : EnvFile) : Except SectionError Json.Fields := do
  let plain := plainNames.filterMap fun name =>
    (vars.lookup (mark ++ name)).join.map fun v => ((name : Text), Json.string v)
  let rest ← readSections source vars sections
  return plain ++ rest

end ConsentGate.Settings
