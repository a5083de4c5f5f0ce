import ConsentGate.Text.Quoted
import ConsentGate.Text.Utf8

namespace ConsentGate

/-- The first unbroken run of characters past U+00FF in a text, by its first and last place. -/
structure WideRun where
  first : Nat
  last : Nat
  head : CodePoint
deriving DecidableEq

def WideRun.message (run : WideRun) : String :=
  if run.first = run.last then
    "'latin-1' codec can't encode character '" ++ .ofList (Quoted.escapeNumber run.head.toNat) ++
      s!"' in position {run.first}: ordinal not in range(256)"
  else
    s!"'latin-1' codec can't encode characters in position {run.first}-{run.last}: " ++
      "ordinal not in range(256)"

namespace Latin1

def isWide (p : CodePoint) : Bool := 0xFF < p.toNat

def wideRunFrom (i : Nat) : Text → Option WideRun
  | [] => none
  | p :: rest =>
    if isWide p then some ⟨i, i + (rest.takeWhile isWide).length, p⟩ else wideRunFrom (i + 1) rest

def wideRun? (t : Text) : Option WideRun := wideRunFrom 0 t

theorem wideRunFrom_eq_none_iff {i : Nat} {t : Text} :
    wideRunFrom i t = none ↔ ∀ p ∈ t, p.toNat ≤ 0xFF := by
  induction t generalizing i with
  | nil => simp [wideRunFrom]
  | cons p t ih =>
    by_cases h : isWide p
    · have hp : ¬p.toNat ≤ 0xFF := by simpa [isWide] using h
      simp [wideRunFrom, h, hp]
    · have hp : p.toNat ≤ 0xFF := by simpa [isWide] using h
      simp [wideRunFrom, h, hp, ih]

def ofBytes (bytes : List UInt8) : List Char := bytes.map fun b => Char.ofNat b.toNat

end Latin1

end ConsentGate
