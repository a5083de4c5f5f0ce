import ConsentGate.Proofs.Cache.Trace

namespace ConsentGate

namespace Cache

variable {c : Cache} {hs : List Happening} {fetch : Fetcher} {time : Moment}

/-- Calls end in the order in which they were made, and all but the one under way have ended. -/
theorem calls_eq_ends_append (h : c.Admits hs) :
    c.flight.toList ++ hs.filterMap Happening.call? =
      hs.filterMap Happening.end? ++ (c.replay hs).flight.toList := by
  induction hs generalizing c with
  | nil => simp [replay]
  | cons x hs ih =>
    obtain ⟨hfits, hadmits⟩ := h
    have hrest := ih hadmits
    cases x with
    | attempted time => exact hrest
    | published held => exact hrest
    | called call =>
      have hflight := inFlight_eq_false_iff.mp (nextCall_eq_some_iff.mp hfits).1
      rw [hflight]
      exact hrest
    | ended outcome now =>
      have hflight : c.flight = some outcome := hfits
      rw [hflight]
      exact congrArg (outcome :: ·) hrest

theorem calls_eq_range (hfetch : c.fetcher = some fetch) (h : c.Admits hs) :
    hs.filterMap Happening.call? =
      (List.range' c.fetches (hs.filterMap Happening.call?).length).map
        fun n => (fetch n).outcome := by
  induction hs generalizing c with
  | nil => rfl
  | cons x hs ih =>
    obtain ⟨hfits, hadmits⟩ := h
    cases x with
    | attempted time => exact ih (c := c.after (.attempted time)) hfetch hadmits
    | published held => exact ih (c := c.after (.published held)) hfetch hadmits
    | ended outcome now => exact ih (c := c.after (.ended outcome now)) hfetch hadmits
    | called call =>
      obtain ⟨_, fetch', hfetch', rfl⟩ := nextCall_eq_some_iff.mp hfits
      obtain rfl : fetch = fetch' := Option.some.inj (hfetch.symm.trans hfetch')
      have hrest := ih (c := c.after (.called (fetch c.fetches))) hfetch hadmits
      rw [Happening.calls_cons_called, List.length_cons, List.range'_succ, List.map_cons]
      exact congrArg ((fetch c.fetches).outcome :: ·) hrest

theorem inFlight_replay_iff (hflight : c.flight = none) (h : c.Admits hs) :
    (c.replay hs).inFlight = true ↔
      (hs.filterMap Happening.call?).length = (hs.filterMap Happening.end?).length + 1 := by
  have hcalls := calls_eq_ends_append h
  rw [hflight, Option.toList_none, List.nil_append] at hcalls
  rw [hcalls, inFlight, List.length_append]
  cases (c.replay hs).flight <;> simp

theorem nextCall_of_inFlight (h : c.inFlight = true) : c.nextCall = none :=
  nextCall_eq_none_iff.mpr (.inl h)

theorem current_of_inFlight (h : c.inFlight = true) (now time : Moment) :
    ∃ last, c.current now time = ({ c with lastAttempt := last }, [], c.list) := by
  unfold current
  split
  · have hcall : { c with lastAttempt := some time }.nextCall = none := nextCall_of_inFlight h
    rw [refreshInBackground_of_no_call hcall]
    exact ⟨some time, rfl⟩
  · exact ⟨c.lastAttempt, rfl⟩

theorem refused_of_inFlight (h : c.inFlight = true) (now : Moment) :
    (∃ e, c.refresh now = (c, [e], false)) ∧ c.refreshInBackground now = (c, [], false) ∧
      ∀ time, ∃ last, c.current now time = ({ c with lastAttempt := last }, [], c.list) := by
  have hcall := nextCall_of_inFlight h
  refine ⟨⟨_, refresh_of_no_call hcall now⟩, refreshInBackground_of_no_call hcall now, ?_⟩
  exact current_of_inFlight h now

theorem inFlight_land (c : Cache) (now : Moment) : (c.land now).1.inFlight = false := by
  unfold land
  cases h : c.flight with
  | none => simp [inFlight, h]
  | some outcome =>
    obtain ⟨hstate, _⟩ := { c with flight := none }.complete_eq outcome now
    dsimp only
    rw [hstate]
    rfl

theorem refresh_fetches (hflight : c.inFlight = false) (hfetch : c.fetcher = some fetch)
    (now : Moment) :
    (c.refresh now).1.fetches = c.fetches + 1 ∧ (c.refresh now).1.inFlight = false := by
  have hcall : c.nextCall = some (fetch c.fetches) :=
    nextCall_eq_some_iff.mpr ⟨hflight, fetch, hfetch, rfl⟩
  obtain ⟨hstate, _⟩ := { c with fetches := c.fetches + 1 }.complete_eq (fetch c.fetches).outcome now
  rw [refresh_of_call hcall]
  dsimp only
  rw [hstate]
  exact ⟨rfl, hflight⟩

end Cache

namespace ClockedCache

/-- One call at a time is under way: each is the fetcher's next one, and those before it have ended.
Meanwhile nobody else calls the fetcher, and readers go on; once the call ends, a refresh may make
the next one. -/
theorem one_call_under_way (now : Clock) (fetcher : Option Fetcher)
    (refreshInterval retryInterval : Interval) (initial : Option VendorList)
    (loadedAt : Option Moment) (ts : List Step) :
    let s₀ : ClockedCache :=
      ⟨now, .create now fetcher refreshInterval retryInterval initial loadedAt⟩
    let c := (s₀.run ts).cache
    let calls (hs : List Happening) := hs.filterMap Happening.call?
    let ends (hs : List Happening) := hs.filterMap Happening.end?
    (∀ hs, hs <+: s₀.trace ts → ∃ underWay : Option FetchOutcome,
      calls hs = ends hs ++ underWay.toList) ∧
    (c.inFlight = true ↔ (calls (s₀.trace ts)).length = (ends (s₀.trace ts)).length + 1) ∧
    (∀ fetch, fetcher = some fetch →
      calls (s₀.trace ts) = (List.range c.fetches).map fun n => (fetch n).outcome) ∧
    c.fetches = (calls (s₀.trace ts)).length ∧
    c.fetches = (s₀.log ts).count .refreshStarted ∧
    (c.inFlight = true → ∀ clock,
      (∃ e, c.refresh clock = (c, [e], false)) ∧ c.refreshInBackground clock = (c, [], false) ∧
      ∀ time, ∃ last, c.current clock time = ({ c with lastAttempt := last }, [], c.list)) ∧
    (∀ clock, (c.land clock).1.inFlight = false) ∧
    (c.inFlight = false → fetcher ≠ none → ∀ clock,
      (c.refresh clock).1.fetches = c.fetches + 1 ∧ (c.refresh clock).1.inFlight = false) := by
  intro s₀ c calls ends
  have htraces := traces_run s₀ ts
  have hreplay : s₀.cache.replay (s₀.trace ts) = c := htraces.replay
  have hfetches : c.fetches = (calls (s₀.trace ts)).length := by
    rw [← hreplay, Cache.fetches_replay]
    exact Nat.zero_add _
  refine ⟨?_, ?_, ?_, hfetches, ?_, Cache.refused_of_inFlight, Cache.inFlight_land c, ?_⟩
  · rintro hs ⟨rest, hrest⟩
    have hadmits := htraces.admits
    rw [← hrest, Cache.admits_append] at hadmits
    -- A new cache has no call under way, so what ended was called since.
    exact ⟨_, Cache.calls_eq_ends_append hadmits.1⟩
  · rw [← hreplay]
    exact Cache.inFlight_replay_iff rfl htraces.admits
  · intro fetch hfetch
    rw [hfetches, List.range_eq_range']
    exact Cache.calls_eq_range (c := s₀.cache) hfetch htraces.admits
  · rw [hfetches, htraces.started]
  · intro hflight hfetcher clock
    obtain ⟨fetch, hfetch⟩ := Option.ne_none_iff_exists'.mp hfetcher
    have hheld : c.fetcher = some fetch := by
      rw [← hreplay, (Cache.settings_replay _ _).1]
      exact hfetch
    exact Cache.refresh_fetches hflight hheld clock

theorem call_under_way_refuses_refresh :
    let fetcher : Fetcher := fun _ => ⟨.failed "ConnectionError" "down", true⟩
    let clock : Clock := ⟨0, some 0⟩
    let s₀ : ClockedCache :=
      ⟨clock, .create clock (some fetcher) Cache.weekly Cache.hourly none none⟩
    let ts : List Step := [.read none, .publish { version := 1 } none, .refresh]
    let c := (s₀.run ts).cache
    let landed := (s₀.run (ts ++ [.land])).cache
    c.inFlight = true ∧ c.fetches = 1 ∧ c.refreshInBackground clock = (c, [], false) ∧
      landed.inFlight = false ∧ (landed.refresh clock).1.fetches = landed.fetches + 1 := by
  intro fetcher clock s₀ ts c landed
  have hflight : c.inFlight = true := rfl
  obtain ⟨_, _, _, hfetches, _, hrefused, hland, _⟩ := one_call_under_way clock (some fetcher)
    Cache.weekly Cache.hourly none none ts
  obtain ⟨_, _, _, _, _, _, _, hnext⟩ := one_call_under_way clock (some fetcher) Cache.weekly
    Cache.hourly none none (ts ++ [.land])
  obtain ⟨_, hbackground, _⟩ := hrefused hflight clock
  have hlanded : landed.inFlight = false := hland clock
  exact ⟨hflight, hfetches, hbackground, hlanded, (hnext hlanded nofun clock).1⟩

end ClockedCache

end ConsentGate
