import ConsentGate.Time.Moment

namespace ConsentGate

namespace Interval

variable {n : Int} {i : Interval}

def daysLimit : Int := 999999999

theorem microsPerDay_eq : microsPerDay = 86400000000 := by decide

theorem ofMicros?_eq_ok_iff :
    ofMicros? n = .ok i ↔
      i = ⟨n⟩ ∧ -daysLimit * microsPerDay ≤ n ∧ n < (daysLimit + 1) * microsPerDay := by
  have hdays : n.fdiv microsPerDay = n / 86400000000 := by
    rw [microsPerDay_eq, Int.fdiv_eq_ediv_of_nonneg n (by decide)]
  rw [ofMicros?, hdays, microsPerDay_eq, daysLimit]
  split
  · exact iff_of_false nofun (by omega)
  · split
    · exact iff_of_false nofun (by omega)
    · rw [Except.ok.injEq, eq_comm, and_iff_left (by omega)]

theorem ofDays?_eq_ok_iff :
    ofDays? n = .ok i ↔ i = ⟨n * microsPerDay⟩ ∧ -daysLimit ≤ n ∧ n ≤ daysLimit := by
  rw [ofDays?, ofMicros?_eq_ok_iff, microsPerDay_eq, daysLimit]
  refine and_congr_right fun _ => ?_
  omega

def microsPerMinute : Int := 60 * microsPerSecond

theorem ofMinutes?_eq_ok_iff :
    ofMinutes? n = .ok i ↔
      i = ⟨n * microsPerMinute⟩ ∧ -daysLimit * 1440 ≤ n ∧ n < (daysLimit + 1) * 1440 := by
  have hmicros : 60 * n * microsPerSecond = n * microsPerMinute := by
    rw [microsPerMinute, Int.mul_comm 60 n, Int.mul_assoc]
  have hminute : microsPerMinute = 60000000 := by decide
  rw [ofMinutes?, ofSeconds?, ofMicros?_eq_ok_iff, hmicros, microsPerDay_eq, daysLimit, hminute]
  refine and_congr_right fun _ => ?_
  omega

end Interval

/-- A time of the calendar on a clock that is less than a day away from UTC. -/
structure Moment.Dated (m : Moment) : Prop where
  inCalendar : m.inCalendar = true
  offset_lt : ∀ o ∈ m.offset, -Interval.microsPerDay < o ∧ o < Interval.microsPerDay

theorem Moment.Dated.bounds {m : Moment} (h : m.Dated) :
    (-62135596800000000 ≤ m.wall ∧ m.wall < 253402300800000000) ∧
      m.wall - 86400000000 < m.instant ∧ m.instant < m.wall + 86400000000 := by
  have hfirst : firstWall = -62135596800000000 := by decide
  have hend : endWall = 253402300800000000 := by decide
  have hwall := h.inCalendar
  rw [Moment.inCalendar, Bool.and_eq_true, decide_eq_true_iff, decide_eq_true_iff, hfirst, hend] at hwall
  have hoffset : -86400000000 < m.offset.getD 0 ∧ m.offset.getD 0 < 86400000000 := by
    cases ho : m.offset with
    | none => decide
    | some o => exact Interval.microsPerDay_eq ▸ h.offset_lt o ho
  refine ⟨hwall, ?_⟩
  rw [instant]
  omega

/-- Between any two times of the calendar lies an interval. -/
theorem Moment.Dated.exists_age {m m' : Moment} (h : m.Dated) (h' : m'.Dated) :
    ∃ age, Interval.ofMicros? (m.since m') = .ok age ∧ age.micros = m.since m' := by
  have hm := h.bounds
  have hm' := h'.bounds
  refine ⟨⟨m.since m'⟩, Interval.ofMicros?_eq_ok_iff.mpr ⟨rfl, ?_⟩, rfl⟩
  rw [Interval.microsPerDay_eq, Interval.daysLimit, since]
  split <;> omega

end ConsentGate
