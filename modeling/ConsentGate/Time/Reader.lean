import ConsentGate.Time.Moment
import ConsentGate.Json.Decimal

namespace ConsentGate.Moment

open Decimal (natOf)

/-- Numbers above this are milliseconds. -/
def secondsLimit : Int := 20000000000

/-- Writing has a year 0, although no moment is in it. -/
def firstWritten : Int := Date.toDays ⟨0, 1, 1⟩ * Interval.microsPerDay

def ofWall? (wall : Int) : Option Moment :=
  if firstWritten ≤ wall ∧ wall < endWall then some ⟨wall, some .utc⟩ else none

def ofInteger? (n : Int) : Option Moment :=
  ofWall? (if n.natAbs ≤ secondsLimit.natAbs then n * 1000000 else n * 1000)

/-- The integer nearest to a positive number; a half goes up. -/
def roundUp (r : Rat) : Int := (r + 1 / 2).floor

/-- The same for a floating number. What is above the whole units counts as a floating product,
to the nearest microsecond. -/
def ofFloat? (r : Rat) : Option Moment :=
  let unit : Int := if -secondsLimit ≤ r ∧ r ≤ secondsLimit then 1000000 else 1000
  ofWall? (r.floor * unit + roundUp (Binary64.times (Binary64.minus r r.floor) unit))

def twoDigits (a b : Char) : Option Nat :=
  if a.isDigit && b.isDigit then some ((a.toNat - 0x30) * 10 + (b.toNat - 0x30)) else none

def readDate : List Char → Option (Date × List Char)
  | a :: b :: c :: d :: '-' :: m :: n :: '-' :: p :: q :: rest => do
    let year := 100 * (← twoDigits a b) + (← twoDigits c d)
    let month ← twoDigits m n
    let day ← twoDigits p q
    if 1 ≤ month ∧ month ≤ 12 ∧ 1 ≤ day ∧ day ≤ Date.monthLength year month then
      some (⟨year, month, day⟩, rest)
    else none
  | _ => none

def readFraction (cs : List Char) : Option (Nat × List Char) :=
  let ds := cs.takeWhile Char.isDigit
  if ds.isEmpty then none
  else
    let six := (ds ++ List.replicate 6 '0').take 6
    some (natOf six, cs.drop ds.length)

/-- Microseconds since midnight. Seconds and their fraction may be left out. -/
def readTime : List Char → Option (Int × List Char)
  | a :: b :: ':' :: c :: d :: rest => do
    let hour ← twoDigits a b
    let minute ← twoDigits c d
    if 24 ≤ hour ∨ 60 ≤ minute then none
    let whole : Int := (hour * 60 + minute) * 60
    match rest with
    | ':' :: rest =>
      match rest with
      | e :: f :: rest =>
        let second ← twoDigits e f
        if 60 ≤ second then none
        match rest with
        | '.' :: rest | ',' :: rest =>
          let (micros, rest) ← readFraction rest
          some ((whole + second) * 1000000 + micros, rest)
        | rest => some ((whole + second) * 1000000, rest)
      | _ => none
    | rest => some (whole * 1000000, rest)
  | _ => none

def readOffset (negative : Bool) (cs : List Char) : Option Int := do
  let digits ← match cs with
    | [a, b, ':', c, d] => some (a, b, c, d)
    | [a, b, c, d] => some (a, b, c, d)
    | _ => none
  let (a, b, c, d) := digits
  let hour ← twoDigits a b
  let minute ← twoDigits c d
  if 60 ≤ minute ∨ 24 * 60 ≤ hour * 60 + minute then none
  else
    let n : Int := (hour * 60 + minute : Nat) * (60 * Interval.microsPerSecond)
    some (if negative then -n else n)

def readZone : List Char → Option (Option Zone)
  | [] => some none
  | ['Z'] | ['z'] => some (some .utc)
  | '+' :: rest => (readOffset false rest).map fun ahead => some (.fixed ahead)
  | '-' :: rest | '\u2212' :: rest => (readOffset true rest).map fun ahead => some (.fixed ahead)
  | _ => none

def readWritten (cs : List Char) : Option Moment := do
  let (date, rest) ← readDate cs
  let midnight := date.toDays * Interval.microsPerDay
  match rest with
  | [] => some ⟨midnight, none⟩
  | c :: rest =>
    if ['T', 't', ' ', '_'].contains c then
      let (micros, rest) ← readTime rest
      let zone ← readZone rest
      some ⟨midnight + micros, zone⟩
    else none

def readPower : List Char → Option Int
  | [] => some 0
  | e :: rest =>
    let (negative, ds) := match rest with
      | '-' :: r => (true, r)
      | '+' :: r => (false, r)
      | r => (false, r)
    if (e = 'e' ∨ e = 'E') ∧ !ds.isEmpty ∧ ds.all Char.isDigit then
      some (if negative then -natOf ds else natOf ds)
    else none

def integerLimit : Nat := Nat.pow 2 63

/-- A number with an optional sign. A power of ten needs a point before it, and the point a digit
on one side at least. -/
def ofNumeral? (cs : List Char) : Option Moment := do
  let (negative, body) := match cs with
    | '-' :: r => (true, r)
    | '+' :: r => (false, r)
    | r => (false, r)
  let whole := body.takeWhile Char.isDigit
  if integerLimit ≤ natOf whole then none
  else match body.drop whole.length with
    | [] =>
      if whole.isEmpty then none else ofInteger? (if negative then -natOf whole else natOf whole)
    | '.' :: rest =>
      let part := rest.takeWhile Char.isDigit
      let power ← readPower (rest.drop part.length)
      if whole.isEmpty && part.isEmpty then none
      else ofFloat? (← (Decimal.mk negative (natOf (whole ++ part)) (power - part.length)).toRat?)
    | _ => none

/-- Reads a calendar time, or a number of seconds or milliseconds. The moment may be in year 0. -/
def ofWritten? (s : String) : Option Moment := (readWritten s.toList).or (ofNumeral? s.toList)

def ofString? (s : String) : Option Moment := (ofWritten? s).filter inCalendar

end ConsentGate.Moment
