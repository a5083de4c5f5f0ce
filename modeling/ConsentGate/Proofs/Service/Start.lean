import ConsentGate.Proofs.Cache.Staleness
import ConsentGate.Proofs.Cache.Throttle
import ConsentGate.Proofs.Settings.Serving
import ConsentGate.Proofs.Time.Interval

namespace ConsentGate

/-- Both intervals are of a length that can be told in days. -/
def ConsentSettings.Timely (c : ConsentSettings) : Prop :=
  c.refreshDays ≤ Interval.daysLimit ∧ c.retryMinutes < (Interval.daysLimit + 1) * 1440

/-- The age of what a cache holds can be told at any time, and is compared with these intervals. -/
structure Cache.Times (c : Cache) (refresh retry : Int) : Prop where
  refreshInterval_eq : c.refreshInterval.micros = refresh
  retryInterval_eq : c.retryInterval.micros = retry
  age : ∀ time loaded, c.loadedAt = some loaded → time.Dated → loaded.Dated →
    ∃ age, Interval.ofMicros? (time.since loaded) = .ok age ∧
      (c.isStale time = true ↔ refresh < age.micros)
  wait : ∀ time last, c.lastAttempt = some last → time.Dated → last.Dated →
    ∃ wait, Interval.ofMicros? (time.since last) = .ok wait ∧
      (c.attemptDue time = true ↔ retry ≤ wait.micros)

theorem Cache.times {c : Cache} {refresh retry : Int}
    (hrefresh : c.refreshInterval.micros = refresh) (hretry : c.retryInterval.micros = retry) :
    c.Times refresh retry where
  refreshInterval_eq := hrefresh
  retryInterval_eq := hretry
  age := by
    intro time loaded hloaded htime hdated
    obtain ⟨age, hage, hmicros⟩ := htime.exists_age hdated
    refine ⟨age, hage, ?_⟩
    rw [isStale_iff, hloaded, hmicros, ← hrefresh, Outdated]
    simp
  wait := by
    intro time last hlast htime hdated
    obtain ⟨wait, hwait, hmicros⟩ := htime.exists_age hdated
    refine ⟨wait, hwait, ?_⟩
    rw [attemptDue_iff, hlast, hmicros, ← hretry]
    simp

namespace Settings

variable {s : Settings} {now : Moment} {c : Cache}

theorem cache_eq_ok_iff (h : s.consent.Checked) :
    s.cache now = .ok c ↔ s.consent.Timely ∧
      c = .create now none ⟨s.consent.refreshDays * Interval.microsPerDay⟩
        ⟨s.consent.retryMinutes * Interval.microsPerMinute⟩ none none := by
  have hrefresh := h.one_le_refreshDays
  have hretry := h.one_le_retryMinutes
  have hlimit : Interval.daysLimit = 999999999 := rfl
  simp only [cache, bind_eq_ok_iff, pure_eq_ok_iff, Interval.ofDays?_eq_ok_iff,
    Interval.ofMinutes?_eq_ok_iff, ConsentSettings.Timely]
  constructor
  · rintro ⟨refresh, ⟨rfl, -, hdays⟩, retry, ⟨rfl, -, hminutes⟩, rfl⟩
    exact ⟨⟨hdays, hminutes⟩, rfl⟩
  · rintro ⟨⟨hdays, hminutes⟩, rfl⟩
    exact ⟨_, ⟨rfl, by omega, hdays⟩, _, ⟨rfl, by omega, hminutes⟩, rfl⟩

end Settings

namespace Service

variable {s : Settings} {now : Moment} {decoder : Option Decoder} {sv : Service}

theorem start_eq (h : s.synthetic.Checked) :
    start now s decoder none =
      ((s.cache now).mapError .interval).map fun c => ⟨s, s.gateOf decoder, c⟩ := by
  rw [start, Settings.gate_of_checked h]
  cases s.cache now <;> rfl

theorem start_eq_ok_iff (h : s.synthetic.Checked) (hconsent : s.consent.Checked) :
    start now s decoder none = .ok sv ↔ s.consent.Timely ∧
      sv = ⟨s, s.gateOf decoder, .create now none
        ⟨s.consent.refreshDays * Interval.microsPerDay⟩
        ⟨s.consent.retryMinutes * Interval.microsPerMinute⟩ none none⟩ := by
  rw [start_eq h]
  simp only [map_eq_ok_iff, mapError_eq_ok_iff, Settings.cache_eq_ok_iff hconsent]
  constructor
  · rintro ⟨c, ⟨htimely, rfl⟩, rfl⟩
    exact ⟨htimely, rfl⟩
  · rintro ⟨htimely, rfl⟩
    exact ⟨_, ⟨htimely, rfl⟩, rfl⟩

theorem interval_of_start_eq_error {e : StartError} (h : s.synthetic.Checked)
    (herror : start now s decoder none = .error e) : ∃ e', e = .interval e' := by
  rw [start_eq h, map_eq_error_iff] at herror
  cases hcache : s.cache now with
  | ok c =>
    rw [hcache] at herror
    cases herror
  | error e' =>
    rw [hcache] at herror
    cases herror
    exact ⟨e', rfl⟩

theorem intervals_pursue (c : ClockedCache) (as : List ClockedCache.Activity) :
    (c.pursue as).cache.refreshInterval = c.cache.refreshInterval ∧
      (c.pursue as).cache.retryInterval = c.cache.retryInterval := by
  rw [ClockedCache.cache_pursue]
  obtain ⟨-, hretry, hrefresh⟩ := Cache.settings_replay c.cache (c.history as)
  exact ⟨hrefresh, hretry⟩

/-- A service starts on settings that were loaded exactly where both intervals can be told in days.
Its cache then goes by these very intervals, whatever it goes through, and else it is the length of
an interval that keeps it from starting. -/
theorem starts_iff_timely {i : Settings.Inputs} (h : Settings.load i = .ok s) (now : Clock)
    (decoder : Option Decoder) :
    ((∃ sv, start now s decoder none = .ok sv) ↔ s.consent.Timely) ∧
    (∀ sv, start now s decoder none = .ok sv → sv.cache.snapshot = none ∧
      ∀ as, ((ClockedCache.mk now sv.cache).pursue as).cache.Times
        (s.consent.refreshDays * Interval.microsPerDay)
        (s.consent.retryMinutes * Interval.microsPerMinute)) ∧
    ∀ e, start now s decoder none = .error e → ∃ e', e = .interval e' := by
  have hchecked := Settings.checked_of_load h
  have hconsent := Settings.consent_checked_of_load h
  refine ⟨?_, ?_, fun e => interval_of_start_eq_error hchecked⟩
  · simp only [start_eq_ok_iff hchecked hconsent, exists_and_left, exists_eq, and_true]
  · intro sv hsv
    obtain ⟨-, rfl⟩ := (start_eq_ok_iff hchecked hconsent).mp hsv
    refine ⟨rfl, fun as => ?_⟩
    obtain ⟨hrefresh, hretry⟩ := intervals_pursue ⟨now, _⟩ as
    exact Cache.times (congrArg Interval.micros hrefresh) (congrArg Interval.micros hretry)

theorem starts_with_longest_intervals :
    let i : Settings.Inputs :=
      { overrides :=
          [("synthetic", .object [("secret_key", .string "k")]),
            ("consent", .object [("vendor_list_refresh_days", .int 999999999),
              ("vendor_list_retry_minutes", .int 1439999999999)])] }
    let s : Settings :=
      { synthetic := ⟨.ofString "k", Resolver.defaultTemplate⟩
        consent := { refreshDays := 999999999, retryMinutes := 1439999999999 } }
    Settings.load i = .ok s ∧ ∃ sv, start ⟨0, some .utc⟩ s none none = .ok sv ∧
      sv.cache.Times (999999999 * Interval.microsPerDay)
        (1439999999999 * Interval.microsPerMinute) := by
  intro i s
  have hload : Settings.load i = .ok s := by
    rw [← toOption_eq_some_iff]
    decide +kernel +revert
  obtain ⟨hstarts, hruns, -⟩ := starts_iff_timely hload ⟨0, some 0⟩ none
  obtain ⟨sv, hsv⟩ := hstarts.mpr ⟨by decide, by decide⟩
  exact ⟨hload, sv, hsv, (hruns sv hsv).2 []⟩

/-- One day more is accepted with the settings, but nothing starts on them. -/
theorem overlong_interval_stops_start :
    let i : Settings.Inputs :=
      { overrides :=
          [("synthetic", .object [("secret_key", .string "k")]),
            ("consent", .object [("vendor_list_refresh_days", .int 1000000000)])] }
    let s : Settings :=
      { synthetic := ⟨.ofString "k", Resolver.defaultTemplate⟩
        consent := { refreshDays := 1000000000 } }
    Settings.load i = .ok s ∧
      start ⟨0, some .utc⟩ s none none = .error (.interval (.tooLong 1000000000)) := by
  intro i s
  have hload : Settings.load i = .ok s := by
    rw [← toOption_eq_some_iff]
    decide +kernel +revert
  have hcache : s.cache ⟨0, some .utc⟩ = .error (.tooLong 1000000000) := rfl
  refine ⟨hload, ?_⟩
  rw [start_eq (Settings.checked_of_load hload), hcache]
  rfl

end Service

end ConsentGate
