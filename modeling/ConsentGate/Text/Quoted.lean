import ConsentGate.Text.CodePoint
import ConsentGate.Text.Printable

namespace ConsentGate.Quoted

def hex (n : Nat) : (width : Nat) → List Char
  | 0 => []
  | width + 1 => hex (n / 16) width ++ [Nat.digitChar (n % 16)]

def escapeNumber (n : Nat) : List Char :=
  if n < 0x100 then '\\' :: 'x' :: hex n 2
  else if n < 0x10000 then '\\' :: 'u' :: hex n 4
  else '\\' :: 'U' :: hex n 8

def escapeIn (mark : Char) : CodePoint → List Char
  | .surrogate i => escapeNumber (0xD800 + i)
  | .scalar c =>
    if c = mark ∨ c = '\\' then ['\\', c]
    else if c = '\n' then ['\\', 'n']
    else if c = '\r' then ['\\', 'r']
    else if c = '\t' then ['\\', 't']
    else if isPrintable c then [c]
    else escapeNumber c.toNat

/-- Double quotes are used only around a text that holds single ones and no double ones. -/
def mark (t : Text) : Char :=
  if t.contains (.scalar '\x27') && !t.contains (.scalar '\x22') then '\x22' else '\x27'

def quote (t : Text) : String :=
  .ofList (mark t :: t.flatMap (escapeIn (mark t)) ++ [mark t])

def quoteList (ts : List Text) : String := "[" ++ ", ".intercalate (ts.map quote) ++ "]"

end ConsentGate.Quoted
