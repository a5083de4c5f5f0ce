import ConsentGate.Text.Case.Table
import ConsentGate.Text.CodePoint

namespace ConsentGate.Case

def inRanges (ranges : Array (Nat × Nat)) (c : Char) : Bool :=
  ranges.any fun (first, last) => first ≤ c.toNat && c.toNat ≤ last

def isCased : Char → Bool := inRanges casedRanges

def isIgnored : Char → Bool := inRanges ignoredRanges

def shifted (spans : Array Span) (c : Char) : Char :=
  match spans.find? (·.covers c.toNat) with
  | some s => Char.ofNat (c.toNat + s.shift).toNat
  | none => c

def lowerChar (c : Char) : List Char :=
  if c.toNat < 0x80 then [c.toLower]
  else if c = '\u0130' then ['i', '\u0307']
  else [shifted lowerSpans c]

def meetsCased (cs : List Char) : Bool := (cs.dropWhile isIgnored).head?.any isCased

/-- A capital sigma that ends a word takes its final form. -/
def lowerFrom (before : List Char) : List Char → List Char
  | [] => []
  | c :: after =>
    (if c = '\u03A3' then
      [if meetsCased before && !meetsCased after then '\u03C2' else '\u03C3']
    else lowerChar c) ++ lowerFrom (c :: before) after

def lowerChars (cs : List Char) : List Char := lowerFrom [] cs

def upperChar (c : Char) : List Char :=
  if c.toNat < 0x80 then [c.toUpper]
  else match upperExpansions.find? (·.1 == c.toNat) with
    | some (_, cs) => cs.map Char.ofNat
    | none => [shifted upperSpans c]

def lower (s : String) : String := .ofList (lowerChars s.toList)

/-- Half of a pair that stands alone has no case and ends a word. What was read of the word is in
reverse. -/
def lowerWords (word : List Char) : Text → Text
  | [] => .ofChars (lowerChars word.reverse)
  | .scalar c :: rest => lowerWords (c :: word) rest
  | .surrogate i :: rest =>
    Text.ofChars (lowerChars word.reverse) ++ .surrogate i :: lowerWords [] rest

def lowerText (t : Text) : Text := lowerWords [] t

def upper (s : String) : String := .ofList (s.toList.flatMap upperChar)

end ConsentGate.Case
