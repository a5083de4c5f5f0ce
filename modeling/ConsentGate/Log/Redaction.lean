import ConsentGate.Json.Basic
import ConsentGate.Text.Case

namespace ConsentGate.Redaction

def sensitiveParts : List Text := ["secret", "password", "token", "authorization", "private_key"]

def holds {α : Type} [BEq α] (part : List α) : List α → Bool
  | [] => part.isEmpty
  | c :: cs => part.isPrefixOf (c :: cs) || holds part cs

def isSensitive (key : Text) : Bool := sensitiveParts.any (holds · (Case.lowerText key))

def redacted : Json := .string "[REDACTED]"

/-- Hides the values under sensitive keys in the topmost `levels` levels. -/
def redactWithin : (levels : Nat) → Json → Json
  | 0, j => j
  | levels + 1, .object fields =>
    .object (fields.map fun (k, v) =>
      (k, if isSensitive k then redacted else redactWithin levels v))
  | levels + 1, .array items => .array (items.map (redactWithin levels))
  | _ + 1, j => j

def levelLimit : Nat := 11

def redact (j : Json) : Json := redactWithin levelLimit j

end ConsentGate.Redaction
