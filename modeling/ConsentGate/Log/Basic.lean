import ConsentGate.Event
import ConsentGate.Log.Redaction
import ConsentGate.Text.Quoted

namespace ConsentGate

structure Log where
  threshold : Nat := Severity.info.rank
  context : Json.Fields := []

inductive LevelError where
  | unknown (name : String)
  | text (value : String)
  | other (shown : String)
deriving DecidableEq

def LevelError.message : LevelError → String
  | unknown name => "module 'logging' has no attribute '" ++ name ++ "'"
  | text value => "Unknown level: " ++ Quoted.quote (.ofString value)
  | other shown => "Level not an integer or a valid string: " ++ shown

inductive FieldClash where
  | ofMethod (severity : Severity) (field : String)
  | ofProxy (field : String)
deriving DecidableEq

def FieldClash.message : FieldClash → String
  | ofMethod severity field =>
    "BoundLogger." ++ severity.name ++ "() got multiple values for argument '" ++ field ++ "'"
  | ofProxy field =>
    "BoundLogger._proxy_to_logger() got multiple values for argument '" ++ field ++ "'"

namespace Log

def thresholds : List (String × Nat) :=
  [("CRITICAL", 50), ("FATAL", 50), ("ERROR", 40), ("WARNING", 30), ("WARN", 30), ("INFO", 20),
    ("DEBUG", 10), ("NOTSET", 0)]

def lineFormat : String := "%(levelname)s:%(name)s:%(message)s"

def lineStyles : String :=
  "\x7b'%': (<class 'logging.PercentStyle'>, '" ++ lineFormat ++ "'), " ++
    "'\x7b': (<class 'logging.StrFormatStyle'>, " ++
    "'\x7blevelname\x7d:\x7bname\x7d:\x7bmessage\x7d'), " ++
    "'$': (<class 'logging.StringTemplateStyle'>, " ++
    "'$\x7blevelname\x7d:$\x7bname\x7d:$\x7bmessage\x7d')\x7d"

def otherNames : List (String × LevelError) :=
  [("BASIC_FORMAT", .text lineFormat), ("_STYLES", .other lineStyles)]

/-- A log without context; the level may be given in any case. -/
def ofLevel (level : String) : Except LevelError Log :=
  let name := Case.upper level
  match thresholds.lookup name with
  | some n => .ok { threshold := n }
  | none => .error ((otherNames.lookup name).getD (.unknown name))

def extend (below above : Json.Fields) : Json.Fields :=
  above.foldl (fun fields (k, v) => fields.put k v) below

def bind (log : Log) (fields : Json.Fields) : Log :=
  { log with context := extend log.context fields }

def clear (log : Log) : Log := { log with context := [] }

def ofRequest (log : Log) (method path : String) : Log :=
  log.clear.bind [("method", .string method), ("path", .string path)]

/-- Lines about single accesses are kept from warnings on. -/
def accessSource : String := "uvicorn.access"

def isAccess (source : String) : Bool :=
  source = accessSource || (accessSource ++ ".").toList.isPrefixOf source.toList

def writes (log : Log) (source : String) (severity : Severity) : Bool :=
  (if isAccess source then Severity.warning.rank else log.threshold) ≤ severity.rank

def withService (fields : Json.Fields) : Json.Fields :=
  fields.put "service" (.string "privacy-gate")

/-- The source without a name is the one above all others. -/
def sourceName (source : String) : String := if source = "" then "root" else source

def leftOut : List Text := ["timestamp", "stack_info", "exc_info"]

/-- A line of the log without its time, if it is written at all. A field of its own goes before
one of the context, and what says where the line comes from goes before both. -/
def line? (log : Log) (source : String) (severity : Severity) (name : String)
    (fields : Json.Fields) : Option Json :=
  if log.writes source severity then
    let own : Json.Fields := fields.put "event" (.string name)
    let all := extend (extend log.context own)
      [("logger", .string (sourceName source)), ("level", .string severity.name)]
    let shown := (withService all).filter fun (k, _) => !leftOut.contains k
    some (Redaction.redact (.object shown))
  else none

def methodArguments : List String := ["self", "event"]

def proxyArgument : String := "method_name"

def clash? (severity : Severity) (fields : Json.Fields) : Option FieldClash :=
  let named (key : Text) : Option String := methodArguments.find? fun name => .ofString name = key
  match fields.keys.findSome? named with
  | some field => some (.ofMethod severity field)
  | none => if fields.keys.contains proxyArgument then some (.ofProxy proxyArgument) else none

/-- Fields are looked at whether the line is written or not. -/
def write (log : Log) (source : String) (severity : Severity) (name : String)
    (fields : Json.Fields) : Except FieldClash (Option Json) :=
  (clash? severity fields).elim (.ok (log.line? source severity name fields)) .error

def lines (log : Log) (events : List Event) : List Json :=
  events.filterMap fun e => log.line? e.source e.severity e.name e.fields

end Log

end ConsentGate
