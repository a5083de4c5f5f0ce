import ConsentGate.Attributes
import ConsentGate.Digest.Hmac
import ConsentGate.Text.Utf8

namespace ConsentGate

inductive IdentityError where
  | emptySecret
  | template (e : TemplateError)
  | unencodable (run : SurrogateRun)
deriving DecidableEq

namespace IdentityError

def runMessage (run : SurrogateRun) : String :=
  if run.first = run.last then
    "'utf-8' codec can't encode character '" ++
      .ofList (Quoted.escapeNumber (0xD800 + run.head)) ++
      s!"' in position {run.first}: surrogates not allowed"
  else
    s!"'utf-8' codec can't encode characters in position {run.first}-{run.last}: " ++
      "surrogates not allowed"

def message : IdentityError → String
  | emptySecret => "Synthetic secret key is empty"
  | template e => e.message
  | unencodable run => "Failed to encode synthetic id input: " ++ runMessage run

def kind : IdentityError → String
  | emptySecret => "ConfigurationError"
  | template _ => "TemplateError"
  | unencodable _ => "SyntheticIdError"

def status (_ : IdentityError) : Nat := 500

end IdentityError

inductive Provenance where
  | fromHeader
  | fromCookie
  | generated
deriving DecidableEq

namespace Provenance

def name : Provenance → String
  | fromHeader => "from_header"
  | fromCookie => "from_cookie"
  | generated => "generated"

def words : List (String × Provenance) :=
  [fromHeader, fromCookie, generated].map fun p => (p.name, p)

end Provenance

structure Identity where
  value : Text
  provenance : Provenance
deriving DecidableEq

namespace Identity

open Schema

def fieldNames : List String := ["value", "provenance"]

def readFields (f : Json.Fields) : Reading Identity :=
  Identity.mk <$> field f "value" readText none
    <*> field f "provenance" (readWord .notMember Provenance.words) none

def toJson (i : Identity) : Json :=
  .object [("value", .ofText i.value), ("provenance", .string i.provenance.name)]

def hashedText (template : Text) (as : Attributes) : Except TemplateError Text := do
  let t ← Template.parseWith Attribute.names template
  return t.render as.value

def generate (secret template : Text) (as : Attributes) : Except IdentityError String := do
  if secret.isEmpty then throw .emptySecret
  let text ← (hashedText template as).mapError .template
  let key ← secret.encode.mapError .unencodable
  let message ← text.encode.mapError .unencodable
  return Hmac.hexTag key message

end Identity

end ConsentGate
