import ConsentGate.Binary64

namespace ConsentGate

structure Interval where
  micros : Int
deriving DecidableEq, Inhabited

inductive IntervalError where
  | tooLong (days : Int)
  | unrepresentable
  | infinite
  | notANumber
  | outsideCalendar
deriving DecidableEq

def IntervalError.message : IntervalError → String
  | tooLong days => s!"days={days}; must have magnitude <= 999999999"
  | unrepresentable => "Python int too large to convert to C int"
  | infinite => "cannot convert float infinity to integer"
  | notANumber => "cannot convert float NaN to integer"
  | outsideCalendar => "date value out of range"

namespace Interval

def microsPerSecond : Int := 1000000

def microsPerDay : Int := 86400 * microsPerSecond

def ofMicros? (micros : Int) : Except IntervalError Interval :=
  let days := micros.fdiv microsPerDay
  if days < -2147483648 ∨ 2147483647 < days then .error .unrepresentable
  else if days < -999999999 ∨ 999999999 < days then .error (.tooLong days)
  else .ok ⟨micros⟩

def ofSeconds? (n : Int) : Except IntervalError Interval := ofMicros? (n * microsPerSecond)

def ofMinutes? (n : Int) : Except IntervalError Interval := ofSeconds? (60 * n)

def ofDays? (n : Int) : Except IntervalError Interval := ofMicros? (n * microsPerDay)

/-- The microseconds of a floating number of seconds. Whole seconds count exactly, and their
fraction as a floating product; a half goes to the even microsecond. -/
def microsOfFloat (seconds : Rat) : Int :=
  let whole := if seconds < 0 then seconds.ceil else seconds.floor
  Binary64.roundEven
    (whole * microsPerSecond + Binary64.times (seconds - whole) microsPerSecond)

def ofFloat? (seconds : Rat) : Except IntervalError Interval := ofMicros? (microsOfFloat seconds)

def seconds (i : Interval) : Int := i.micros.fdiv microsPerSecond

end Interval

end ConsentGate
