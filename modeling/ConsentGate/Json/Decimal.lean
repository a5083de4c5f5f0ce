import ConsentGate.Binary64

namespace ConsentGate

/-- A number written with a point or an exponent: `digits` times ten to the `exponent`. -/
structure Decimal where
  negative : Bool
  digits : Nat
  exponent : Int
deriving DecidableEq, Inhabited

namespace Decimal

def natOf (ds : List Char) : Nat := ds.foldl (fun n d => n * 10 + (d.toNat - 0x30)) 0

/-- An integer that is written with more digits is refused. -/
def digitsLimit : Nat := 4300

def magnitude? (d : Decimal) : Option Rat :=
  let places : Int := (Nat.toDigits 10 d.digits).length + d.exponent
  if d.digits = 0 ∨ places < -400 then some 0
  else if 400 < places then none
  else if 0 ≤ d.exponent then Binary64.nearestQuotient (d.digits * Nat.pow 10 d.exponent.toNat) 1
  else Binary64.nearestQuotient d.digits (Nat.pow 10 (-d.exponent).toNat)

def toRat? (d : Decimal) : Option Rat :=
  d.magnitude?.map fun r => if d.negative then -r else r

/-- Positional where the last digit stands at or behind the point and few places are needed. -/
def toString (d : Decimal) : String :=
  let sign := if d.negative then "-" else ""
  let ds := Nat.toDigits 10 d.digits
  let after := (-d.exponent).toNat
  if d.exponent < 0 ∧ after ≤ 20 then
    let padded := List.replicate (after + 1 - ds.length) '0' ++ ds
    let (whole, part) := padded.splitAt (padded.length - after)
    sign ++ String.ofList whole ++ "." ++ String.ofList part
  else sign ++ String.ofList ds ++ "e" ++ ToString.toString d.exponent

end Decimal

end ConsentGate
