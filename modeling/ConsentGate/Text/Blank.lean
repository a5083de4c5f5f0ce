import ConsentGate.Text.CodePoint

namespace ConsentGate

def isBlank (c : Char) : Bool :=
  let n := c.toNat
  (0x09 ≤ n && n ≤ 0x0D) || (0x1C ≤ n && n ≤ 0x20) || n == 0x85 || n == 0xA0 || n == 0x1680 ||
    (0x2000 ≤ n && n ≤ 0x200A) || n == 0x2028 || n == 0x2029 || n == 0x202F || n == 0x205F ||
    n == 0x3000

/-- Blanks without the four separators U+001C to U+001F. -/
def isSpace (c : Char) : Bool := isBlank c && !(0x1C ≤ c.toNat && c.toNat ≤ 0x1F)

def CodePoint.isBlank : CodePoint → Bool
  | scalar c => ConsentGate.isBlank c
  | surrogate _ => false

variable {α : Type} (p : α → Bool)

def trimEnd (l : List α) : List α := (l.reverse.dropWhile p).reverse

def trim (l : List α) : List α := trimEnd p (l.dropWhile p)

end ConsentGate
