import ConsentGate.Template.Scan
import ConsentGate.Text.Html
import ConsentGate.Text.Quoted
import ConsentGate.OrderedMap

namespace ConsentGate

namespace Template

/-- A placeholder. With three braces its value is inserted as it is, with two it is escaped. -/
structure Tag where
  triple : Bool
  name : Text
deriving DecidableEq

inductive Part where
  | literal (c : CodePoint)
  | tag (t : Tag)
deriving DecidableEq

end Template

abbrev Template := List Template.Part

inductive TemplateError where
  /-- Two braces on one side and three on the other. -/
  | unbalanced (mark : Text)
  | emptyName (mark : Text)
  /-- Two adjacent opening or closing braces outside of all marks. -/
  | strayBraces
  | unknownNames (names allowed : List Text)
deriving DecidableEq

namespace Template

def le (a b : Text) : Bool := !(b.map CodePoint.toNat).lex (a.map CodePoint.toNat) Nat.blt

def sorted (names : List Text) : List Text := names.eraseDups.mergeSort le

end Template

def TemplateError.message : TemplateError → String
  | unbalanced mark => "Unbalanced braces in placeholder " ++ Quoted.quote mark
  | emptyName mark => "Empty placeholder " ++ Quoted.quote mark
  | strayBraces => "Malformed template: unterminated or stray braces"
  | unknownNames names allowed =>
    "Unknown placeholder(s) " ++ Quoted.quoteList names ++ "; expected one of " ++
      Quoted.quoteList (Template.sorted allowed)

namespace Template

def Piece.check : Piece → Except TemplateError Part
  | .plain c => .ok (.literal c)
  | .mark m =>
    if m.opensTriple != m.closesTriple then .error (.unbalanced m.text)
    else if m.name.isEmpty then .error (.emptyName m.text)
    else .ok (.tag ⟨m.opensTriple, m.name⟩)

def checkAll : List Piece → Except TemplateError Template
  | [] => .ok []
  | p :: rest => do
    let part ← p.check
    let parts ← checkAll rest
    return part :: parts

def literals (t : Template) : Text :=
  t.filterMap fun
    | .literal c => some c
    | .tag _ => none

def names (t : Template) : List Text :=
  t.filterMap fun
    | .literal _ => none
    | .tag tag => some tag.name

def hasBracePair : Text → Bool
  | a :: b :: rest => (isBrace a && a = b) || hasBracePair (b :: rest)
  | _ => false

/-- Braces that come together when the placeholders are taken out are stray as well. -/
def parse (source : Text) : Except TemplateError Template := do
  let t ← checkAll (scan source)
  if hasBracePair t.literals then throw .strayBraces
  return t

def parseWith (allowed : List Text) (source : Text) : Except TemplateError Template := do
  let t ← parse source
  let unknown := t.names.filter (!allowed.contains ·)
  if unknown.isEmpty then return t else throw (.unknownNames unknown allowed)

variable (value : Text → Text)

def Part.render : Part → Text
  | .literal c => [c]
  | .tag t => if t.triple then value t.name else Html.escape (value t.name)

def render (t : Template) : Text := t.flatMap (Part.render value)

/-- The value of a name in a table of values; what the table lacks is empty. -/
def valueIn (values : OrderedMap Text Text) (name : Text) : Text := (values.lookup name).getD []

def renderSource (source : Text) (values : OrderedMap Text Text) : Except TemplateError Text := do
  let t ← parseWith values.keys source
  return t.render (valueIn values)

end Template

end ConsentGate
