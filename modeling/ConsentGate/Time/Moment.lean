import ConsentGate.Time.Interval

namespace ConsentGate

/-- How far a clock is ahead of UTC, in microseconds. The offset of a region changes by its own
rules: here it is the one that they give for the time at hand. -/
inductive Zone where
  | fixed (ahead : Int)
  | region (name : String) (ahead : Int)
deriving DecidableEq, Inhabited

namespace Zone

def utc : Zone := fixed 0

def ahead : Zone → Int
  | fixed ahead | region _ ahead => ahead

def region? : Zone → Option String
  | fixed _ => none
  | region name _ => some name

end Zone

/-- A point in time as it is written: the wall clock in microseconds since the beginning of 1970,
and the zone that it goes by. A moment without a zone counts as UTC. What is read from data never
goes by a region, but a caller may hand in a moment that does. -/
structure Moment where
  wall : Int
  zone : Option Zone
deriving DecidableEq, Inhabited

namespace Moment

def offset (m : Moment) : Option Int := m.zone.map Zone.ahead

def region? (m : Moment) : Option String := m.zone.bind Zone.region?

def instant (m : Moment) : Int := m.wall - m.offset.getD 0

def shareRegion (m m' : Moment) : Bool := m.region?.isSome && m.region? == m'.region?

/-- The time between two moments. Clocks of one region are compared as they stand, also where one of
them was put forward or back in between. -/
def since (later earlier : Moment) : Int :=
  if later.shareRegion earlier then later.wall - earlier.wall else later.instant - earlier.instant

def exceeds (later earlier : Moment) (limit : Interval) : Bool := limit.micros < later.since earlier

def reaches (later earlier : Moment) (limit : Interval) : Bool := limit.micros ≤ later.since earlier

/-- No region that both go by has changed its offset in between. -/
def Steady (m m' : Moment) : Prop := m.shareRegion m' = true → m.offset = m'.offset

instance (m m' : Moment) : Decidable (m.Steady m') :=
  inferInstanceAs (Decidable (m.shareRegion m' = true → m.offset = m'.offset))

variable {m m' : Moment}

theorem shareRegion_comm (m m' : Moment) : m.shareRegion m' = m'.shareRegion m := by
  unfold shareRegion
  rw [BEq.comm]
  cases m.region? <;> cases m'.region? <;> rfl

theorem Steady.symm (h : m.Steady m') : m'.Steady m := by
  intro hshared
  rw [shareRegion_comm] at hshared
  exact (h hshared).symm

theorem steady_of_region?_eq_none (h : m.region? = none) (m' : Moment) : m.Steady m' := by
  intro hshared
  simp [shareRegion, h] at hshared

theorem steady_of_region?_eq_none_or (h : m.region? = none ∨ m'.region? = none) : m.Steady m' := by
  rcases h with h | h
  · exact steady_of_region?_eq_none h m'
  · exact (steady_of_region?_eq_none h m).symm

/-- The time between two moments is that between their instants, unless their region has changed its
offset in between. -/
theorem since_eq_iff : m.since m' = m.instant - m'.instant ↔ m.Steady m' := by
  have hoffset {m : Moment} (h : m.region? ≠ none) : m.offset = some (m.wall - m.instant) := by
    cases hzone : m.zone with
    | none => simp [region?, hzone] at h
    | some zone =>
      rw [instant, offset, hzone, Option.map_some, Option.getD_some]
      congr 1
      omega
  unfold since Steady
  split
  · next hshared =>
    rw [forall_prop_of_true hshared]
    simp only [shareRegion, Bool.and_eq_true, Option.isSome_iff_ne_none, beq_iff_eq] at hshared
    obtain ⟨hregion, hsame⟩ := hshared
    rw [hoffset hregion, hoffset (hsame ▸ hregion), Option.some.injEq]
    omega
  · next hshared => simp [hshared]

theorem Steady.since_eq (h : m.Steady m') : m.since m' = m.instant - m'.instant := since_eq_iff.mpr h

/-- Where clocks are put forward at two, half past one is an hour and a half before three, by them,
and half an hour in truth. -/
example :
    let hour : Int := 3600 * Interval.microsPerSecond
    let before : Moment := ⟨hour + hour / 2, some (.region "Europe/Berlin" hour)⟩
    let after : Moment := ⟨3 * hour, some (.region "Europe/Berlin" (2 * hour))⟩
    after.since before = hour + hour / 2 ∧ after.instant - before.instant = hour / 2 := by decide

end Moment

/-- The clock of the program itself. It has no zone or keeps a fixed one. -/
structure Clock where
  wall : Int
  ahead : Option Int
deriving DecidableEq, Inhabited

namespace Clock

def time (c : Clock) : Moment := ⟨c.wall, c.ahead.map .fixed⟩

instance : Coe Clock Moment := ⟨time⟩

def advance (c : Clock) (i : Interval) : Clock := { c with wall := c.wall + i.micros }

theorem instant_advance (c : Clock) (i : Interval) :
    (c.advance i).time.instant = c.time.instant + i.micros := by
  simp only [Moment.instant, time, advance, Moment.offset]
  omega

theorem region?_time (c : Clock) : c.time.region? = none := by
  cases h : c.ahead <;> simp [Moment.region?, time, h, Zone.region?]

theorem steady_time (c : Clock) (m : Moment) : c.time.Steady m :=
  Moment.steady_of_region?_eq_none c.region?_time m

end Clock

structure Date where
  year : Int
  month : Nat
  day : Nat
deriving DecidableEq

namespace Date

def isLeap (year : Int) : Bool := year % 4 == 0 && (year % 100 != 0 || year % 400 == 0)

def monthLength (year : Int) : Nat → Nat
  | 2 => if isLeap year then 29 else 28
  | 4 | 6 | 9 | 11 => 30
  | _ => 31

/-- Days since the beginning of 1970. Years are counted from March, so that a leap day is last. -/
def toDays (d : Date) : Int :=
  let y := if d.month ≤ 2 then d.year - 1 else d.year
  let era := y.fdiv 400
  let yearOfEra := y - era * 400
  let dayOfYear : Int := (153 * ((d.month + 9) % 12) + 2) / 5 + d.day - 1
  era * 146097 + yearOfEra * 365 + yearOfEra / 4 - yearOfEra / 100 + dayOfYear - 719468

def ofDays (days : Int) : Date :=
  let z := days + 719468
  let era := z.fdiv 146097
  let dayOfEra := z - era * 146097
  let yearOfEra := (dayOfEra - dayOfEra / 1460 + dayOfEra / 36524 - dayOfEra / 146096) / 365
  let dayOfYear := dayOfEra - (365 * yearOfEra + yearOfEra / 4 - yearOfEra / 100)
  let m := (5 * dayOfYear + 2) / 153
  let month := if m < 10 then m + 3 else m - 9
  let year := yearOfEra + era * 400 + (if month ≤ 2 then 1 else 0)
  ⟨year, month.toNat, (dayOfYear - (153 * m + 2) / 5 + 1).toNat⟩

end Date

namespace Moment

def firstWall : Int := Date.toDays ⟨1, 1, 1⟩ * Interval.microsPerDay

def endWall : Int := Date.toDays ⟨10000, 1, 1⟩ * Interval.microsPerDay

def inCalendar (m : Moment) : Bool := firstWall ≤ m.wall && m.wall < endWall

def padded (width : Nat) (n : Nat) : String :=
  let ds := Nat.toDigits 10 n
  .ofList (List.replicate (width - ds.length) '0' ++ ds)

def wallText (wall : Int) : String :=
  let days := wall.fdiv Interval.microsPerDay
  let rest := (wall - days * Interval.microsPerDay).toNat
  let date := Date.ofDays days
  let seconds := rest / 1000000
  let micros := rest % 1000000
  padded 4 date.year.toNat ++ "-" ++ padded 2 date.month ++ "-" ++ padded 2 date.day ++ "T" ++
    padded 2 (seconds / 3600) ++ ":" ++ padded 2 (seconds / 60 % 60) ++ ":" ++
    padded 2 (seconds % 60) ++ (if micros = 0 then "" else "." ++ padded 6 micros)

def hoursText (minutes : Nat) : String := padded 2 (minutes / 60) ++ ":" ++ padded 2 (minutes % 60)

/-- Seconds and microseconds are written where an offset has any. -/
def offsetText (offset : Int) : String :=
  let seconds := offset.natAbs / 1000000
  let micros := offset.natAbs % 1000000
  (if offset < 0 then "-" else "+") ++ hoursText (seconds / 60) ++
    (if seconds % 60 = 0 ∧ micros = 0 then "" else ":" ++ padded 2 (seconds % 60)) ++
    (if micros = 0 then "" else "." ++ padded 6 micros)

/-- The short form of an offset goes by whole seconds and stops at minutes. -/
def zoneText (offset : Int) : String :=
  let seconds := (offset.natAbs + 500000) / 1000000
  if seconds = 0 then "Z" else (if offset < 0 then "-" else "+") ++ hoursText (seconds / 60)

def toString (m : Moment) : String := wallText m.wall ++ m.offset.elim "" offsetText

def toZString (m : Moment) : String := wallText m.wall ++ m.offset.elim "" zoneText

end Moment

def Clock.advance? (c : Clock) (i : Interval) : Except IntervalError Clock :=
  let c := c.advance i
  if c.time.inCalendar then .ok c else .error .outsideCalendar

end ConsentGate
