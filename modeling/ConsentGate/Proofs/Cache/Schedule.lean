import ConsentGate.Proofs.Cache.Staleness

namespace ConsentGate.Cache

structure Idle (fetch : Fetcher) (interval : Interval) (c : Cache) : Prop where
  fetcher : c.fetcher = some fetch
  flight : c.flight = none
  refreshInterval : c.refreshInterval = interval

/-- Checks are numbered from zero and follow each other at one distance. -/
def checkTime (now : Clock) (wait : Interval) (k : Nat) : Clock := now.advance ⟨k * wait.micros⟩

def beforeCheck (c : Cache) (now : Clock) (wait : Interval) : Nat → Cache
  | 0 => c
  | k + 1 => (c.patrol now (List.replicate k wait)).1

def Fetches (c : Cache) (now : Clock) (wait : Interval) (k : Nat) : Prop :=
  (c.beforeCheck now wait (k + 1)).fetches = (c.beforeCheck now wait k).fetches + 1

/-- The call that the check makes, or would make, does not bring a list. -/
def Fails (c : Cache) (fetch : Fetcher) (now : Clock) (wait : Interval) (k : Nat) : Prop :=
  (fetch (c.beforeCheck now wait k).fetches).outcome.brought (checkTime now wait k) = none

variable {c : Cache} {fetch : Fetcher} {interval wait : Interval} {now : Clock}
  {t : Moment} {i j k : Nat}

theorem checkTime_zero (now : Clock) (wait : Interval) : checkTime now wait 0 = now := by
  simp [checkTime, Clock.advance]

theorem checkTime_succ (now : Clock) (wait : Interval) (k : Nat) :
    checkTime now wait (k + 1) = (checkTime now wait k).advance wait := by
  have hmicros : ((k + 1 : Nat) : Int) * wait.micros = k * wait.micros + wait.micros := by
    rw [Int.natCast_succ, Int.add_mul, Int.one_mul]
  rw [checkTime, checkTime, hmicros]
  simp only [Clock.advance, Int.add_assoc]

theorem instant_checkTime_succ (now : Clock) (wait : Interval) (k : Nat) :
    (checkTime now wait (k + 1)).time.instant =
      (checkTime now wait k).time.instant + wait.micros := by
  rw [checkTime_succ, Clock.instant_advance]

/-- The clock of the checks keeps its offset, so that ages go by instants. -/
theorem outdated_checkTime_iff {loadedAt : Option Moment} :
    Outdated loadedAt interval (checkTime now wait k) ↔
      ∀ loaded ∈ loadedAt, interval.micros < (checkTime now wait k).time.instant - loaded.instant :=
  outdated_iff_of_steadySince fun loaded _ => Clock.steady_time _ loaded

theorem patrol_concat (c : Cache) (now : Clock) (waits : List Interval) (wait : Interval) :
    c.patrol now (waits ++ [wait]) =
      let r := c.patrol now waits
      let checked := r.1.check (r.2.2.advance wait)
      (checked.1, r.2.1 ++ checked.2, r.2.2.advance wait) := by
  induction waits generalizing c now with
  | nil => rfl
  | cons w waits ih => simp only [List.cons_append, patrol, ih, List.append_assoc]

theorem time_patrol (c : Cache) (now : Clock) (wait : Interval) (k : Nat) :
    (c.patrol now (List.replicate k wait)).2.2 = checkTime now wait k := by
  induction k with
  | zero => exact (checkTime_zero now wait).symm
  | succ k ih => rw [List.replicate_succ', patrol_concat, checkTime_succ, ← ih]

theorem beforeCheck_succ (c : Cache) (now : Clock) (wait : Interval) (k : Nat) :
    c.beforeCheck now wait (k + 1) =
      ((c.beforeCheck now wait k).check (checkTime now wait k)).1 := by
  cases k with
  | zero =>
    rw [checkTime_zero]
    rfl
  | succ k =>
    rw [beforeCheck, List.replicate_succ', patrol_concat, checkTime_succ, ← time_patrol c]
    rfl

theorem check_of_fresh (h : c.isStale t = false) : (c.check t).1 = c := by
  rw [check, h]
  rfl

namespace Idle

variable (hidle : c.Idle fetch interval)
include hidle

theorem check_of_stale (h : c.isStale t = true) :
    (c.check t).1 =
      { c with
        fetches := c.fetches + 1
        snapshot := (Happening.ended (fetch c.fetches).outcome t).written.or c.snapshot } := by
  have hcall : c.nextCall = some (fetch c.fetches) :=
    nextCall_eq_some_iff.mpr ⟨inFlight_eq_false_iff.mpr hidle.flight, fetch, hidle.fetcher, rfl⟩
  obtain ⟨hstate, -⟩ := { c with fetches := c.fetches + 1 }.complete_eq (fetch c.fetches).outcome t
  rw [check, if_pos h, refresh_of_call hcall]
  exact hstate

theorem fetches_check (t : Moment) :
    (c.check t).1.fetches = c.fetches + if c.isStale t then 1 else 0 := by
  cases h : c.isStale t with
  | false =>
    rw [check_of_fresh h]
    rfl
  | true =>
    rw [hidle.check_of_stale h]
    rfl

theorem check (t : Moment) : (c.check t).1.Idle fetch interval := by
  cases h : c.isStale t with
  | false => rwa [check_of_fresh h]
  | true =>
    rw [hidle.check_of_stale h]
    exact ⟨hidle.fetcher, hidle.flight, hidle.refreshInterval⟩

theorem beforeCheck (now : Clock) (wait : Interval) (k : Nat) :
    (c.beforeCheck now wait k).Idle fetch interval := by
  induction k with
  | zero => exact hidle
  | succ k ih =>
    rw [beforeCheck_succ]
    exact ih.check _

theorem fetches_iff_isStale :
    c.Fetches now wait k ↔ (c.beforeCheck now wait k).isStale (checkTime now wait k) = true := by
  rw [Fetches, beforeCheck_succ, (hidle.beforeCheck now wait k).fetches_check]
  split <;> simp [*]

theorem fetches_iff_outdated :
    c.Fetches now wait k ↔
      Outdated (c.beforeCheck now wait k).loadedAt interval (checkTime now wait k) := by
  rw [hidle.fetches_iff_isStale, isStale_iff, (hidle.beforeCheck now wait k).refreshInterval]

theorem beforeCheck_succ_of_fetches (h : c.Fetches now wait k) :
    (c.beforeCheck now wait (k + 1)).snapshot =
      (Happening.ended (fetch (c.beforeCheck now wait k).fetches).outcome
        (checkTime now wait k)).written.or (c.beforeCheck now wait k).snapshot := by
  rw [beforeCheck_succ, (hidle.beforeCheck now wait k).check_of_stale (hidle.fetches_iff_isStale.mp h)]

theorem beforeCheck_succ_of_not_fetches (h : ¬c.Fetches now wait k) :
    c.beforeCheck now wait (k + 1) = c.beforeCheck now wait k := by
  rw [hidle.fetches_iff_isStale, Bool.not_eq_true] at h
  rw [beforeCheck_succ, check_of_fresh h]

theorem loadedAt_of_fetches (h : c.Fetches now wait k) (hsucceeds : ¬c.Fails fetch now wait k) :
    (c.beforeCheck now wait (k + 1)).loadedAt = some (checkTime now wait k).time := by
  obtain ⟨l, hl⟩ := Option.ne_none_iff_exists'.mp hsucceeds
  rw [loadedAt, hidle.beforeCheck_succ_of_fetches h, Happening.written, hl]
  rfl

theorem loadedAt_of_fails (h : c.Fetches now wait k) (hfails : c.Fails fetch now wait k) :
    (c.beforeCheck now wait (k + 1)).loadedAt = (c.beforeCheck now wait k).loadedAt := by
  rw [loadedAt, hidle.beforeCheck_succ_of_fetches h, Happening.written, hfails]
  rfl

theorem fetches_succ_of_fails (hwait : 0 < wait.micros) (h : c.Fetches now wait k)
    (hfails : c.Fails fetch now wait k) : c.Fetches now wait (k + 1) := by
  -- A failure leaves the list as old as it was, so that it is older still at the next check.
  rw [hidle.fetches_iff_outdated, hidle.loadedAt_of_fails h hfails]
  have hold := hidle.fetches_iff_outdated.mp h
  refine hold.later (fun loaded _ => Clock.steady_time _ loaded)
    (fun loaded _ => Clock.steady_time _ loaded) ?_
  rw [instant_checkTime_succ]
  omega

theorem fetches_until_success (hwait : 0 < wait.micros) (hij : i ≤ j) (h : c.Fetches now wait i)
    (hfails : ∀ k, i ≤ k → k < j → c.Fails fetch now wait k) : c.Fetches now wait j := by
  induction hij with
  | refl => exact h
  | @step j hij ih =>
    have hj := ih fun k hik hkj => hfails k hik (Nat.lt_succ_of_lt hkj)
    exact hidle.fetches_succ_of_fails hwait hj (hfails j hij (Nat.lt_succ_self j))

theorem age_of_not_fetches (h : ¬c.Fetches now wait k) :
    ∃ loaded, (c.beforeCheck now wait k).loadedAt = some loaded ∧
      (checkTime now wait k).time.instant - loaded.instant ≤ interval.micros := by
  rw [hidle.fetches_iff_outdated, outdated_checkTime_iff] at h
  cases hloaded : (c.beforeCheck now wait k).loadedAt with
  | none => simp [hloaded] at h
  | some loaded => exact ⟨loaded, rfl, by simpa [hloaded] using h⟩

theorem age_after_check (hinterval : 0 ≤ interval.micros)
    (hsucceeds : c.Fetches now wait k → ¬c.Fails fetch now wait k) :
    ∃ loaded, (c.beforeCheck now wait (k + 1)).loadedAt = some loaded ∧
      (checkTime now wait k).time.instant - loaded.instant ≤ interval.micros := by
  by_cases h : c.Fetches now wait k
  · refine ⟨_, hidle.loadedAt_of_fetches h (hsucceeds h), ?_⟩
    omega
  · rw [hidle.beforeCheck_succ_of_not_fetches h]
    exact hidle.age_of_not_fetches h

theorem loadedAt_since_fetch (hij : i < j) (h : c.Fetches now wait i)
    (hsucceeds : ¬c.Fails fetch now wait i) (hnone : ∀ k, i < k → k < j → ¬c.Fetches now wait k) :
    (c.beforeCheck now wait j).loadedAt = some (checkTime now wait i).time := by
  induction hij with
  | refl => exact hidle.loadedAt_of_fetches h hsucceeds
  | @step j hij ih =>
    rw [hidle.beforeCheck_succ_of_not_fetches (hnone j hij (Nat.lt_succ_self j))]
    exact ih fun k hik hkj => hnone k hik (Nat.lt_succ_of_lt hkj)

theorem gap_of_fetches (hinterval : 0 ≤ interval.micros) (hij : i < j) (hi : c.Fetches now wait i)
    (hsucceeds : ¬c.Fails fetch now wait i) (hj : c.Fetches now wait j)
    (hnone : ∀ k, i < k → k < j → ¬c.Fetches now wait k) :
    interval.micros < (checkTime now wait j).time.instant - (checkTime now wait i).time.instant ∧
      (checkTime now wait j).time.instant - (checkTime now wait i).time.instant ≤
        interval.micros + wait.micros := by
  constructor
  · have hold := outdated_checkTime_iff.mp (hidle.fetches_iff_outdated.mp hj)
    exact hold _ (hidle.loadedAt_since_fetch hij hi hsucceeds hnone)
  · obtain ⟨m, rfl⟩ : ∃ m, j = m + 1 := ⟨j - 1, by omega⟩
    rw [instant_checkTime_succ]
    rcases Nat.lt_succ_iff_lt_or_eq.mp hij with him | rfl
    · -- The check before did not fetch, so that the list was not too old yet.
      have hfresh := hnone m him (Nat.lt_succ_self m)
      have hloaded := hidle.loadedAt_since_fetch him hi hsucceeds fun k hik hkm =>
        hnone k hik (Nat.lt_succ_of_lt hkm)
      obtain ⟨loaded, hloaded', hage⟩ := hidle.age_of_not_fetches hfresh
      obtain rfl := Option.some.inj (hloaded.symm.trans hloaded')
      omega
    · omega

end Idle

/-- Checks that follow each other at one distance, while nobody else uses the cache. Each calls the
fetcher once if the list is stale and else not at all, and calls go on until one succeeds. As long
as none fails, no check leaves a list that is too old, and from one call to the next it is more than
the refresh interval, by one wait at most. -/
theorem patrol_schedule (hfetch : c.fetcher = some fetch) (hflight : c.flight = none)
    (hinterval : 0 ≤ c.refreshInterval.micros) (hwait : 0 < wait.micros) (now : Clock) :
    let clock := checkTime now wait
    let instant (k : Nat) := (clock k).time.instant
    let before := c.beforeCheck now wait
    let fetches := c.Fetches now wait
    let fails := c.Fails fetch now wait
    (∀ k, (c.patrol now (List.replicate k wait)).1 = ((before k).check (clock k)).1 ∧
      (c.patrol now (List.replicate k wait)).2.2 = clock k) ∧
    (∀ k, (before (k + 1)).fetches =
      (before k).fetches + if (before k).isStale (clock k) then 1 else 0) ∧
    (∀ i j, i ≤ j → fetches i → (∀ k, i ≤ k → k < j → fails k) → fetches j) ∧
    ∀ n, (∀ k, k < n → fetches k → ¬fails k) →
      (∀ k, k < n → ∃ loaded, (before (k + 1)).loadedAt = some loaded ∧
        instant k - loaded.instant ≤ c.refreshInterval.micros) ∧
      ∀ i j, i < j → j < n → fetches i → fetches j → (∀ k, i < k → k < j → ¬fetches k) →
        c.refreshInterval.micros < instant j - instant i ∧
          instant j - instant i ≤ c.refreshInterval.micros + wait.micros := by
  intro clock instant before fetches fails
  have hidle : c.Idle fetch c.refreshInterval := ⟨hfetch, hflight, rfl⟩
  refine ⟨?_, ?_, ?_, ?_⟩
  · intro k
    exact ⟨beforeCheck_succ c now wait k, time_patrol c now wait k⟩
  · intro k
    have hcheck := (hidle.beforeCheck now wait k).fetches_check (clock k)
    rwa [← beforeCheck_succ] at hcheck
  · intro i j hij hi hfails
    exact hidle.fetches_until_success hwait hij hi hfails
  · intro n hsucceed
    constructor
    · intro k hk
      exact hidle.age_after_check hinterval (hsucceed k hk)
    · intro i j hij hjn hi hj hnone
      exact hidle.gap_of_fetches hinterval hij hi (hsucceed i (by omega) hi) hj hnone

/-- Two calls bring a list and the later ones fail. With a list that may be two waits old the first
call is followed by one at the third check from it, and a failed one by one at each check. -/
theorem patrol_schedule_two_waits :
    let fetcher : Fetcher := fun i => ⟨if i < 2 then .list {} else .failed "OSError" "down", false⟩
    let twoHours : Interval := ⟨2 * hourly.micros⟩
    let start : Clock := ⟨0, none⟩
    let c : Cache := .create start (some fetcher) twoHours hourly none none
    let instant (k : Nat) := (checkTime start hourly k).time.instant
    let fetches := c.Fetches start hourly
    0 ≤ twoHours.micros ∧ 0 < hourly.micros ∧
      (fetches 0 ∧ ¬fetches 1 ∧ ¬fetches 2 ∧ fetches 3) ∧
      (twoHours.micros < instant 3 - instant 0 ∧
        instant 3 - instant 0 ≤ twoHours.micros + hourly.micros) ∧
      fetches 6 ∧ c.Fails fetcher start hourly 6 ∧ c.Fails fetcher start hourly 7 ∧ fetches 8 := by
  intro fetcher twoHours start c instant fetches
  have hinterval : 0 ≤ twoHours.micros := by decide
  have hwait : 0 < hourly.micros := by decide
  have hzero : fetches 0 := rfl
  have hone : ¬fetches 1 := Nat.ne_of_beq_eq_false rfl
  have htwo : ¬fetches 2 := Nat.ne_of_beq_eq_false rfl
  have hthree : fetches 3 := rfl
  have hsix : fetches 6 := rfl
  have hdown : c.Fails fetcher start hourly 6 := rfl
  have hdown' : c.Fails fetcher start hourly 7 := rfl
  obtain ⟨-, -, hretried, hspaced⟩ := patrol_schedule (c := c) rfl rfl hinterval hwait start
  have hsucceed : ∀ k, k < 4 → fetches k → ¬c.Fails fetcher start hourly k := by
    rintro (_ | _ | _ | _ | k) hk hfetches hfails
    · exact nomatch hfails
    · exact hone hfetches
    · exact htwo hfetches
    · exact nomatch hfails
    · omega
  have hgap := (hspaced 4 hsucceed).2 0 3 (by decide) (by decide) hzero hthree fun k hk hk' => by
    obtain rfl | rfl : k = 1 ∨ k = 2 := by omega
    · exact hone
    · exact htwo
  have hlast := hretried 6 8 (by decide) hsix fun k hk hk' => by
    obtain rfl | rfl : k = 6 ∨ k = 7 := by omega
    · exact hdown
    · exact hdown'
  exact ⟨hinterval, hwait, ⟨hzero, hone, htwo, hthree⟩, hgap, hsix, hdown, hdown', hlast⟩

end ConsentGate.Cache
