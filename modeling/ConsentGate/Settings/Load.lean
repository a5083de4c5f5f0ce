import ConsentGate.Log.Redaction
import ConsentGate.Settings.Basic
import ConsentGate.Settings.Source

namespace ConsentGate

inductive SettingsError where
  | insecureSecret
  | invalid (issues : List Schema.Issue)
  | ofSection (e : Settings.SectionError)

namespace SettingsError

def insecureMessage : String := "Synthetic secret key is set to the default value - this is insecure"

def message : SettingsError → String
  | insecureSecret => insecureMessage
  | invalid issues =>
    "Invalid settings: " ++ "; ".intercalate (issues.map fun i => i.place ++ ": " ++ i.fault.message)
  | ofSection e => e.message

def kind : SettingsError → String
  | insecureSecret => "InsecureSecretKeyError"
  | invalid _ => "ConfigurationError"
  | ofSection (.unreadable _ _) => "SettingsError"
  | ofSection (.tooDeep _) => "RecursionError"

/-- An insecure secret is an error of the configuration too. -/
def isConfiguration : SettingsError → Bool
  | insecureSecret | invalid _ => true
  | ofSection _ => false

end SettingsError

namespace Settings

/-- What settings are read from, as texts. A file that is not UTF-8 is left out: reading it fails
with the error of the decoder, which is none of those below. So are variables that are not. -/
structure Inputs where
  overrides : Json.Fields := []
  environment : Environment := []
  envFile : Option String := none

/-- Overrides by their names in lower case; of names that differ in case alone the first counts. -/
def Inputs.givenFields (i : Inputs) : Json.Fields :=
  OrderedMap.ofPairs (i.overrides.map fun (k, v) => (Case.lowerText k, v)).reverse

/-- Overrides win over the environment, and that over the file. -/
def Inputs.merged (i : Inputs) : Except SectionError Json.Fields := do
  let environment ← readSource .environment
    (lowerNames (i.environment.map fun (k, v) => (k, some v)))
  let file ← readSource .envFile
    (lowerNames ((i.envFile.map (EnvFile.ofString i.environment)).getD []))
  return merge file (merge environment i.givenFields)

/-- Told by the last step to the issue and a word of its message. -/
def isInsecure (i : Schema.Issue) : Bool :=
  (match i.path.getLast? with
    | some (.field name) => name == "secret_key"
    | _ => false) &&
    Redaction.holds "insecure".toList i.fault.message.toList

def ofFields (f : Json.Fields) : Except SettingsError Settings :=
  match readFields f with
  | .value s => .ok s
  | .issues found =>
    if found.any isInsecure then .error .insecureSecret else .error (.invalid found)

/-- A secret that everybody knows is told before all other issues. -/
def load (i : Inputs) : Except SettingsError Settings :=
  match i.merged with
  | .error e => .error (.ofSection e)
  | .ok f => ofFields f

/-- Settings that were loaded once are kept, with the number of loads that went before. -/
structure Memo where
  kept : Option (Nat × Settings) := none
  loads : Nat := 0

def Memo.get (m : Memo) (i : Inputs) : Memo × Except SettingsError (Nat × Settings) :=
  match m.kept with
  | some entry => (m, .ok entry)
  | none =>
    match load i with
    | .ok s => (⟨some (m.loads, s), m.loads + 1⟩, .ok (m.loads, s))
    | .error e => (m, .error e)

def Memo.clear (m : Memo) : Memo := { m with kept := none }

end Settings

end ConsentGate
