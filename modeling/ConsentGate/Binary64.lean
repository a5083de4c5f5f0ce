namespace ConsentGate.Binary64

/-- The integer nearest to a quotient; a half goes to the even neighbour. -/
def roundQuotient (num den : Nat) : Nat :=
  let q := num / den
  let r := 2 * (num % den)
  if r < den ∨ (r = den ∧ q % 2 = 0) then q else q + 1

def roundEven (r : Rat) : Int :=
  let n : Int := roundQuotient r.num.natAbs r.den
  if r < 0 then -n else n

def scale (num den : Nat) (q : Int) : Nat × Nat :=
  if 0 ≤ q then (num, den <<< q.toNat) else (num <<< (-q).toNat, den)

def lastPlace (num den : Nat) : Int :=
  let q : Int := (num.log2 : Int) - den.log2 - 52
  let (a, b) := scale num den q
  max (-1074) (if a / b < Nat.pow 2 52 then q - 1 else q)

/-- The nearest floating number, or none where that would be infinite. -/
def nearestQuotient (num den : Nat) : Option Rat :=
  if num = 0 then some 0
  else
    let q := lastPlace num den
    let (a, b) := scale num den q
    let m := roundQuotient a b
    if 0 ≤ q then
      let v := m <<< q.toNat
      if v < Nat.pow 2 1024 then some v else none
    else some (mkRat m (Nat.pow 2 (-q).toNat))

def nearest (r : Rat) : Option Rat :=
  (nearestQuotient r.num.natAbs r.den).map fun m => if r < 0 then -m else m

def times (a b : Rat) : Rat := (nearest (a * b)).getD (a * b)

def minus (a b : Rat) : Rat := (nearest (a - b)).getD (a - b)

end ConsentGate.Binary64
