import ConsentGate.Proofs.Cache.Trace

namespace ConsentGate

variable {retry : Interval} {last : Option Moment}

/-- Of the times in a row those that come at least an interval after the one taken before. -/
def dueTimes (retry : Interval) : Option Moment → List Moment → List Moment
  | _, [] => []
  | last, t :: ts =>
    if ∀ m ∈ last, retry.micros ≤ t.since m then t :: dueTimes retry (some t) ts
    else dueTimes retry last ts

theorem dueTimes_subset (last : Option Moment) (ts : List Moment) : dueTimes retry last ts ⊆ ts := by
  induction ts generalizing last with
  | nil => exact List.Subset.refl []
  | cons t ts ih =>
    unfold dueTimes
    split
    · exact List.cons_subset_cons t (ih (some t))
    · exact List.subset_cons_of_subset t (ih last)

theorem instant_of_mem_dueTimes (hretry : 0 ≤ retry.micros) {m t : Moment} {ts : List Moment}
    (hsteady : (m :: dueTimes retry (some m) ts).Pairwise Moment.Steady)
    (h : t ∈ dueTimes retry (some m) ts) : retry.micros ≤ t.instant - m.instant := by
  induction ts generalizing m with
  | nil => cases h
  | cons u us ih =>
    unfold dueTimes at h hsteady
    split at h
    · next hdue =>
      rw [if_pos hdue] at hsteady
      have hum : u.Steady m := ((List.pairwise_cons.mp hsteady).1 u List.mem_cons_self).symm
      have hu : retry.micros ≤ u.instant - m.instant := hum.since_eq ▸ hdue m rfl
      rcases List.mem_cons.mp h with rfl | ht
      · exact hu
      · have htu := ih hsteady.of_cons ht
        omega
    · next hdue =>
      rw [if_neg hdue] at hsteady
      exact ih hsteady h

theorem pairwise_dueTimes (hretry : 0 ≤ retry.micros) (last : Option Moment) (ts : List Moment)
    (hsteady : (dueTimes retry last ts).Pairwise Moment.Steady) :
    (dueTimes retry last ts).Pairwise fun t₁ t₂ => retry.micros ≤ t₂.instant - t₁.instant := by
  induction ts generalizing last with
  | nil => exact .nil
  | cons t ts ih =>
    unfold dueTimes at hsteady ⊢
    split at hsteady
    · next hdue =>
      rw [if_pos hdue]
      exact .cons (fun u hu => instant_of_mem_dueTimes hretry hsteady hu) (ih _ hsteady.of_cons)
    · next hdue =>
      rw [if_neg hdue]
      exact ih last hsteady

namespace Cache

variable {c : Cache} {now time : Moment}

def withAttempt (c : Cache) (last : Option Moment) : Cache := { c with lastAttempt := last }

theorem complete_withAttempt (c : Cache) (last : Option Moment) (outcome : FetchOutcome)
    (now : Moment) :
    (c.withAttempt last).complete outcome now =
      ((c.complete outcome now).1.withAttempt last, (c.complete outcome now).2) := by
  unfold complete
  cases outcome.vendorList now <;> rfl

theorem refresh_withAttempt (c : Cache) (last : Option Moment) (now : Moment) :
    (c.withAttempt last).refresh now =
      ((c.refresh now).1.withAttempt last, (c.refresh now).2) := by
  cases hcall : c.nextCall with
  | none =>
    have hcall' : (c.withAttempt last).nextCall = none := hcall
    rw [refresh_of_no_call hcall, refresh_of_no_call hcall']
    rfl
  | some call =>
    have hcall' : (c.withAttempt last).nextCall = some call := hcall
    have hcounted : { c.withAttempt last with fetches := (c.withAttempt last).fetches + 1 } =
        { c with fetches := c.fetches + 1 }.withAttempt last := rfl
    simp only [refresh_of_call hcall, refresh_of_call hcall', hcounted, complete_withAttempt]

theorem land_withAttempt (c : Cache) (last : Option Moment) (now : Moment) :
    (c.withAttempt last).land now = ((c.land now).1.withAttempt last, (c.land now).2) := by
  unfold land
  cases hflight : c.flight with
  | none =>
    have hflight' : (c.withAttempt last).flight = none := hflight
    rw [hflight']
  | some outcome =>
    have hflight' : (c.withAttempt last).flight = some outcome := hflight
    have hended : { c.withAttempt last with flight := none } =
        { c with flight := none }.withAttempt last := rfl
    simp only [hflight', hended, complete_withAttempt]

theorem refreshInBackground_withAttempt (c : Cache) (last : Option Moment) (now : Moment) :
    (c.withAttempt last).refreshInBackground now =
      ((c.refreshInBackground now).1.withAttempt last, (c.refreshInBackground now).2) := by
  cases hcall : c.nextCall with
  | none =>
    have hcall' : (c.withAttempt last).nextCall = none := hcall
    rw [refreshInBackground_of_no_call hcall, refreshInBackground_of_no_call hcall']
  | some call =>
    have hcall' : (c.withAttempt last).nextCall = some call := hcall
    have hcalled : (c.withAttempt last).after (.called call) =
        (c.after (.called call)).withAttempt last := rfl
    simp only [refreshInBackground_of_call hcall, refreshInBackground_of_call hcall', hcalled,
      land_withAttempt]
    split <;> rfl

theorem check_withAttempt (c : Cache) (last : Option Moment) (now : Moment) :
    (c.withAttempt last).check now = ((c.check now).1.withAttempt last, (c.check now).2) := by
  have hstale : (c.withAttempt last).isStale now = c.isStale now := rfl
  unfold check
  rw [hstale, refresh_withAttempt]
  cases c.isStale now <;> rfl

theorem patrol_withAttempt (c : Cache) (last : Option Moment) (now : Clock)
    (waits : List Interval) :
    (c.withAttempt last).patrol now waits =
      ((c.patrol now waits).1.withAttempt last, (c.patrol now waits).2) := by
  induction waits generalizing c now with
  | nil => simp only [patrol, check_withAttempt]
  | cons wait waits ih => simp only [patrol, check_withAttempt, ih]

theorem attemptDue_iff :
    c.attemptDue time = true ↔ ∀ last ∈ c.lastAttempt, c.retryInterval.micros ≤ time.since last := by
  unfold attemptDue Moment.reaches
  cases c.lastAttempt <;> simp

theorem nextCall_isSome_iff :
    c.nextCall.isSome = true ↔ c.fetcher ≠ none ∧ c.inFlight = false := by
  rw [Option.isSome_iff_ne_none, Ne, nextCall_eq_none_iff, not_or, Bool.not_eq_true, and_comm]

theorem current_eq (c : Cache) (now time : Moment) :
    c.current now time =
      if c.isStale time && c.attemptDue time then
        ((c.refreshInBackground now).1.withAttempt (some time), (c.refreshInBackground now).2.1,
          c.list)
      else (c, [], c.list) := by
  have hattempted : { c with lastAttempt := some time } = c.withAttempt (some time) := rfl
  simp only [current, hattempted, refreshInBackground_withAttempt]

theorem fetches_refreshInBackground (c : Cache) (now : Moment) :
    (c.refreshInBackground now).1.fetches = c.fetches + if c.nextCall.isSome then 1 else 0 := by
  rw [← (traces_refreshInBackground c now).replay, fetches_replay, startingInBackground]
  cases c.nextCall with
  | none => rfl
  | some call =>
    dsimp only
    split <;> rfl

theorem fetches_current (c : Cache) (now time : Moment) :
    (c.current now time).1.fetches =
      c.fetches + if c.isStale time && c.attemptDue time && c.nextCall.isSome then 1 else 0 := by
  rw [current_eq]
  by_cases hdue : (c.isStale time && c.attemptDue time) = true
  · simp only [hdue, ↓reduceIte, Bool.true_and]
    exact fetches_refreshInBackground c now
  · simp [hdue]

theorem lastAttempt_current (c : Cache) (now time : Moment) :
    (c.current now time).1.lastAttempt =
      if c.isStale time && c.attemptDue time then some time else c.lastAttempt := by
  rw [current_eq]
  split <;> rfl

end Cache

namespace ClockedCache

variable {s : ClockedCache} {t : Step} {ts : List Step} {time : Option Moment}

def withAttempt (s : ClockedCache) (last : Option Moment) : ClockedCache :=
  { s with cache := s.cache.withAttempt last }

def readTime (s : ClockedCache) : Step → Option Moment
  | .read time => some (time.getD s.now)
  | _ => none

def starts (s : ClockedCache) (t : Step) : Bool := s.cache.fetches < (s.step t).1.cache.fetches

def staleReads (s : ClockedCache) : List Step → List Moment
  | [] => []
  | t :: ts => ((s.readTime t).filter s.cache.isStale).toList ++ (s.step t).1.staleReads ts

def startingReads (s : ClockedCache) : List Step → List Moment
  | [] => []
  | t :: ts => ((s.readTime t).filter fun _ => s.starts t).toList ++ (s.step t).1.startingReads ts

theorem step_withAttempt (h : s.readTime t = none) (last : Option Moment) :
    (s.withAttempt last).step t = ((s.step t).1.withAttempt last, (s.step t).2) := by
  cases t with
  | read time => cases h
  | tick i => rfl
  | askStale time => rfl
  | publish l loadedAt => rfl
  | refresh => simp only [step, withAttempt, Cache.refresh_withAttempt]
  | refreshInBackground => simp only [step, withAttempt, Cache.refreshInBackground_withAttempt]
  | land => simp only [step, withAttempt, Cache.land_withAttempt]
  | patrol waits => simp only [step, withAttempt, Cache.patrol_withAttempt]

theorem readTime_eq_some_iff {m : Moment} :
    s.readTime t = some m ↔ ∃ time, t = .read time ∧ time.getD s.now = m := by
  cases t <;> simp [readTime]

theorem retryInterval_step (s : ClockedCache) (t : Step) :
    (s.step t).1.cache.retryInterval = s.cache.retryInterval := by
  rw [← (traces_step s t).replay]
  exact (Cache.settings_replay _ _).2.1

def attemptTime (s : ClockedCache) (t : Step) : Option Moment :=
  (s.readTime t).filter fun m => s.cache.isStale m && s.cache.attemptDue m

theorem lastAttempt_step (s : ClockedCache) (t : Step) :
    (s.step t).1.cache.lastAttempt = (s.attemptTime t).or s.cache.lastAttempt := by
  unfold attemptTime
  cases hread : s.readTime t with
  | none =>
    exact congrArg (fun r => r.1.cache.lastAttempt) (step_withAttempt hread s.cache.lastAttempt)
  | some m =>
    obtain ⟨time, rfl, rfl⟩ := readTime_eq_some_iff.mp hread
    have hstep : (s.step (.read time)).1.cache = (s.cache.current s.now (time.getD s.now)).1 := rfl
    rw [hstep, Cache.lastAttempt_current, Option.filter_some]
    split <;> rfl

theorem starts_read_iff :
    s.starts (.read time) = true ↔
      s.cache.isStale (time.getD s.now) = true ∧ s.cache.attemptDue (time.getD s.now) = true ∧
        s.cache.nextCall.isSome = true := by
  have hstep : (s.step (.read time)).1.cache = (s.cache.current s.now (time.getD s.now)).1 := rfl
  rw [starts, hstep, Cache.fetches_current, decide_eq_true_eq, ← and_assoc, ← Bool.and_eq_true,
    ← Bool.and_eq_true]
  split <;> simp [*]

theorem dueTimes_staleReads_cons (s : ClockedCache) (t : Step) (ts : List Step) :
    dueTimes s.cache.retryInterval s.cache.lastAttempt (s.staleReads (t :: ts)) =
      (s.attemptTime t).toList ++
        dueTimes s.cache.retryInterval ((s.attemptTime t).or s.cache.lastAttempt)
          ((s.step t).1.staleReads ts) := by
  rw [staleReads, attemptTime]
  generalize (s.step t).1.staleReads ts = rest
  cases s.readTime t with
  | none => rfl
  | some m =>
    rw [Option.filter_some, Option.filter_some]
    cases hstale : s.cache.isStale m with
    | false => rfl
    | true =>
      simp only [↓reduceIte, Option.toList_some, List.singleton_append, dueTimes, Bool.true_and,
        Cache.attemptDue_iff]
      split <;> rfl

theorem lastAttempt_run (s : ClockedCache) (ts : List Step) :
    (s.run ts).cache.lastAttempt =
      (dueTimes s.cache.retryInterval s.cache.lastAttempt (s.staleReads ts)).getLast?.or
        s.cache.lastAttempt := by
  induction ts generalizing s with
  | nil => rfl
  | cons t ts ih =>
    have hrun : s.run (t :: ts) = (s.step t).1.run ts := rfl
    rw [hrun, ih, retryInterval_step, lastAttempt_step, dueTimes_staleReads_cons]
    cases s.attemptTime t with
    | none => rfl
    | some m => simp [List.getLast?_cons]

/-- A read goes by the time that it is given or by the clock, which has no region. -/
theorem region?_of_mem_staleReads (h : ∀ m, .read (some m) ∈ ts → m.region? = none) {m : Moment}
    (hm : m ∈ s.staleReads ts) : m.region? = none := by
  induction ts generalizing s with
  | nil => cases hm
  | cons t ts ih =>
    rw [staleReads, List.mem_append, Option.mem_toList, Option.filter_eq_some_iff] at hm
    rcases hm with ⟨hread, _⟩ | hm
    · obtain ⟨time, rfl, rfl⟩ := readTime_eq_some_iff.mp hread
      cases time with
      | none => exact s.now.region?_time
      | some m => exact h m List.mem_cons_self
    · exact ih (fun m hread => h m (List.mem_cons_of_mem t hread)) hm

theorem startingReads_sublist (s : ClockedCache) (ts : List Step) :
    (s.startingReads ts).Sublist
      (dueTimes s.cache.retryInterval s.cache.lastAttempt (s.staleReads ts)) := by
  induction ts generalizing s with
  | nil => exact .slnil
  | cons t ts ih =>
    have hrest := ih (s.step t).1
    rw [retryInterval_step, lastAttempt_step] at hrest
    rw [startingReads, dueTimes_staleReads_cons]
    refine List.Sublist.append ?_ hrest
    unfold attemptTime
    cases hread : s.readTime t with
    | none => exact .slnil
    | some m =>
      obtain ⟨time, rfl, rfl⟩ := readTime_eq_some_iff.mp hread
      rw [Option.filter_some, Option.filter_some]
      split
      · next hstarts =>
        obtain ⟨hstale, hdue, _⟩ := starts_read_iff.mp hstarts
        simp [hstale, hdue]
      · exact List.nil_sublist _

/-- By clocks that are put forward at two an hour has passed between half past one and three, and a
second fetch starts after half an hour. -/
example :
    let fetcher : Fetcher := fun _ => ⟨.failed "ConnectionError" "down", false⟩
    let clock : Clock := ⟨0, some 0⟩
    let s₀ : ClockedCache :=
      ⟨clock, .create clock (some fetcher) Cache.weekly Cache.hourly none none⟩
    let hour : Int := Cache.hourly.micros
    let before : Moment := ⟨hour + hour / 2, some (.region "Europe/Berlin" hour)⟩
    let after : Moment := ⟨3 * hour, some (.region "Europe/Berlin" (2 * hour))⟩
    s₀.startingReads [.read (some before), .read (some after)] = [before, after] ∧
      ¬before.Steady after ∧ after.instant - before.instant < Cache.hourly.micros := by decide

end ClockedCache

end ConsentGate
