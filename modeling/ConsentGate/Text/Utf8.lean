import ConsentGate.Text.CodePoint

namespace ConsentGate

/-- The first unbroken run of lone surrogates in a text, by its first and last place. -/
structure SurrogateRun where
  first : Nat
  last : Nat
  head : Fin 2048
deriving DecidableEq

namespace Text

def utf8 (cs : List Char) : List UInt8 := cs.flatMap String.utf8EncodeChar

def surrogateRunFrom (i : Nat) : Text → Option SurrogateRun
  | [] => none
  | .scalar _ :: rest => surrogateRunFrom (i + 1) rest
  | .surrogate h :: rest => some ⟨i, i + (rest.takeWhile CodePoint.isSurrogate).length, h⟩

def surrogateRun? (t : Text) : Option SurrogateRun := surrogateRunFrom 0 t

def encode (t : Text) : Except SurrogateRun (List UInt8) :=
  match surrogateRun? t with
  | some run => .error run
  | none => .ok (t.flatMap fun
    | .scalar c => String.utf8EncodeChar c
    | .surrogate _ => [])

theorem surrogateRunFrom_ofChars (cs : List Char) (i : Nat) :
    surrogateRunFrom i (ofChars cs) = none := by
  induction cs generalizing i with
  | nil => rfl
  | cons c cs ih => simp [surrogateRunFrom, ih]

theorem encode_ofChars (cs : List Char) : encode (ofChars cs) = .ok (utf8 cs) := by
  have h : surrogateRun? (ofChars cs) = none := surrogateRunFrom_ofChars cs 0
  rw [encode, h]
  simp only [ofChars, List.flatMap_map, utf8]

/-- How many bytes follow this first byte, and the range of the one after it. -/
def utf8Lead (b : UInt8) : Option (Nat × UInt8 × UInt8) :=
  if 0xC2 ≤ b ∧ b ≤ 0xDF then some (1, 0x80, 0xBF)
  else if b = 0xE0 then some (2, 0xA0, 0xBF)
  else if b = 0xED then some (2, 0x80, 0x9F)
  else if 0xE1 ≤ b ∧ b ≤ 0xEF then some (2, 0x80, 0xBF)
  else if b = 0xF0 then some (3, 0x90, 0xBF)
  else if b = 0xF4 then some (3, 0x80, 0x8F)
  else if 0xF1 ≤ b ∧ b ≤ 0xF3 then some (3, 0x80, 0xBF)
  else none

/-- Takes up to `n` bytes that continue a character; the first must lie between the bounds. -/
def continuation (n : Nat) (low high : UInt8) (value : Nat) : List UInt8 → Option Nat × Nat
  | [] => (if n = 0 then some value else none, 0)
  | b :: rest =>
    match n with
    | 0 => (some value, 0)
    | n + 1 =>
      if low ≤ b ∧ b ≤ high then
        let (found, used) := continuation n 0x80 0xBF (value * 64 + (b.toNat - 0x80)) rest
        (found, used + 1)
      else (none, 0)

/-- Reads bytes as characters; the longest beginning of a broken character becomes one U+FFFD. -/
def decodeLossy : List UInt8 → List Char
  | [] => []
  | b :: rest =>
    if b < 0x80 then Char.ofNat b.toNat :: decodeLossy rest
    else match utf8Lead b with
      | none => '\uFFFD' :: decodeLossy rest
      | some (n, low, high) =>
        let bits := b.toNat % (if n = 1 then 32 else if n = 2 then 16 else 8)
        let (found, used) := continuation n low high bits rest
        (match found with
          | some v => Char.ofNat v
          | none => '\uFFFD') :: decodeLossy (rest.drop used)
termination_by bytes => bytes.length
decreasing_by all_goals simp [List.length_drop]; try omega

end Text

end ConsentGate
