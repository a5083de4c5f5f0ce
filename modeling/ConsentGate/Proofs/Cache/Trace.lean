import ConsentGate.Cache.Step

namespace ConsentGate

/-- The list that a fetch comes to: the one that it returns, or the one that its document stands
for. -/
def FetchOutcome.brought (now : Moment) : FetchOutcome → Option VendorList
  | list l => some l
  | payload j => (VendorList.ofGvl now j).toOption
  | failed .. | invalid => none

theorem FetchOutcome.toOption_vendorList (outcome : FetchOutcome) (now : Moment) :
    (outcome.vendorList now).toOption = outcome.brought now := by
  cases outcome with
  | list l => rfl
  | payload j =>
    simp only [vendorList, brought]
    cases VendorList.ofGvl now j <;> rfl
  | failed kind message => rfl
  | invalid => rfl

/-- What happens to a cache in a step, taken apart. A refresh is a call of the fetcher and, at once
or some steps later, the end of that call. -/
inductive Happening where
  | attempted (time : Moment)
  | called (call : Fetch)
  | ended (outcome : FetchOutcome) (now : Moment)
  | published (held : Snapshot)

namespace Happening

def written : Happening → Option Snapshot
  | attempted _ | called _ => none
  -- A list counts as loaded when the call that brought it ends.
  | ended outcome now => (outcome.brought now).map fun l => ⟨l, now⟩
  | published held => some held

def call? : Happening → Option FetchOutcome
  | called call => some call.outcome
  | _ => none

def end? : Happening → Option FetchOutcome
  | ended outcome _ => some outcome
  | _ => none

theorem calls_cons_called (call : Fetch) (hs : List Happening) :
    (called call :: hs).filterMap call? = call.outcome :: hs.filterMap call? := rfl

end Happening

namespace Cache

def nextCall (c : Cache) : Option Fetch := if c.inFlight then none else c.fetcher.map (· c.fetches)

def after (c : Cache) : Happening → Cache
  | .attempted time => { c with lastAttempt := some time }
  | .called call => { c with fetches := c.fetches + 1, flight := some call.outcome }
  | .ended outcome now =>
    { c with
      flight := none
      snapshot := (Happening.ended outcome now).written.or c.snapshot }
  | .published held => { c with snapshot := some held }

def replay (c : Cache) (hs : List Happening) : Cache := hs.foldl after c

/-- A call is the next one of the fetcher, and what ends is the call under way. -/
def Fits (c : Cache) : Happening → Prop
  | .called call => c.nextCall = some call
  | .ended outcome _ => c.flight = some outcome
  | .attempted _ | .published _ => True

def Admits (c : Cache) : List Happening → Prop
  | [] => True
  | h :: hs => c.Fits h ∧ (c.after h).Admits hs

def refreshing (c : Cache) (now : Moment) : List Happening :=
  match c.nextCall with
  | none => []
  | some call => [.called call, .ended call.outcome now]

def startingInBackground (c : Cache) (now : Moment) : List Happening :=
  match c.nextCall with
  | none => []
  | some call => .called call :: if call.slow then [] else [.ended call.outcome now]

def landing (c : Cache) (now : Moment) : List Happening := c.flight.toList.map (.ended · now)

def reading (c : Cache) (now time : Moment) : List Happening :=
  if c.isStale time && c.attemptDue time then .attempted time :: c.startingInBackground now else []

def checking (c : Cache) (now : Moment) : List Happening :=
  if c.isStale now then c.refreshing now else []

def patrolling (c : Cache) (now : Clock) : List Interval → List Happening
  | [] => c.checking now
  | wait :: waits => c.checking now ++ (c.check now).1.patrolling (now.advance wait) waits

/-- The happenings lead from one state to the other, and each call is logged as a start. -/
structure Traces (c : Cache) (hs : List Happening) (c' : Cache) (events : List Event) : Prop where
  admits : c.Admits hs
  replay : c.replay hs = c'
  started : events.count .refreshStarted = (hs.filterMap Happening.call?).length

variable {c c₁ c₂ : Cache} {hs hs₁ hs₂ : List Happening} {events events₁ events₂ : List Event}
  {now time : Moment} {call : Fetch} {outcome : FetchOutcome}

theorem replay_append (c : Cache) (hs₁ hs₂ : List Happening) :
    c.replay (hs₁ ++ hs₂) = (c.replay hs₁).replay hs₂ := List.foldl_append

theorem admits_append : c.Admits (hs₁ ++ hs₂) ↔ c.Admits hs₁ ∧ (c.replay hs₁).Admits hs₂ := by
  induction hs₁ generalizing c with
  | nil => simp [Admits, Cache.replay]
  | cons h hs ih =>
    rw [List.cons_append, Admits, Admits, ih, and_assoc]
    rfl

theorem settings_replay (c : Cache) (hs : List Happening) :
    (c.replay hs).fetcher = c.fetcher ∧ (c.replay hs).retryInterval = c.retryInterval ∧
      (c.replay hs).refreshInterval = c.refreshInterval := by
  induction hs generalizing c with
  | nil => exact ⟨rfl, rfl, rfl⟩
  | cons h hs ih =>
    obtain ⟨hfetcher, hretry, hrefresh⟩ := ih (c.after h)
    cases h <;> exact ⟨hfetcher, hretry, hrefresh⟩

theorem fetches_replay (c : Cache) (hs : List Happening) :
    (c.replay hs).fetches = c.fetches + (hs.filterMap Happening.call?).length := by
  induction hs generalizing c with
  | nil => rfl
  | cons h hs ih =>
    have hreplay : c.replay (h :: hs) = (c.after h).replay hs := rfl
    rw [hreplay, ih]
    cases h with
    | called call =>
      rw [Happening.calls_cons_called, List.length_cons]
      exact Nat.add_right_comm c.fetches 1 _
    | attempted time => rfl
    | ended outcome now => rfl
    | published held => rfl

namespace Traces

theorem none (h : events.count .refreshStarted = 0) : c.Traces [] c events := ⟨trivial, rfl, h⟩

theorem append (h₁ : c.Traces hs₁ c₁ events₁) (h₂ : c₁.Traces hs₂ c₂ events₂) :
    c.Traces (hs₁ ++ hs₂) c₂ (events₁ ++ events₂) where
  admits := by
    rw [admits_append, h₁.replay]
    exact ⟨h₁.admits, h₂.admits⟩
  replay := by rw [replay_append, h₁.replay, h₂.replay]
  started := by
    rw [List.count_append, List.filterMap_append, List.length_append, h₁.started, h₂.started]

end Traces

theorem nextCall_eq_some_iff :
    c.nextCall = some call ↔
      c.inFlight = false ∧ ∃ fetch, c.fetcher = some fetch ∧ fetch c.fetches = call := by
  unfold nextCall
  cases c.inFlight <;> simp

theorem nextCall_eq_none_iff : c.nextCall = none ↔ c.inFlight = true ∨ c.fetcher = none := by
  unfold nextCall
  cases c.inFlight <;> simp

theorem inFlight_eq_false_iff : c.inFlight = false ↔ c.flight = none := by
  unfold inFlight
  cases c.flight <;> simp

theorem complete_eq (c : Cache) (outcome : FetchOutcome) (now : Moment) :
    (c.complete outcome now).1 =
        { c with snapshot := (Happening.ended outcome now).written.or c.snapshot } ∧
      (c.complete outcome now).2.1.count .refreshStarted = 0 ∧
      (c.complete outcome now).2.2 = (Happening.ended outcome now).written.isSome := by
  rw [Happening.written, ← FetchOutcome.toOption_vendorList]
  cases h : outcome.vendorList now <;> simp [complete, publish, h, Except.toOption]

theorem refresh_of_call (h : c.nextCall = some call) (now : Moment) :
    c.refresh now =
      let r := { c with fetches := c.fetches + 1 }.complete call.outcome now
      (r.1, .refreshStarted :: r.2.1, r.2.2) := by
  obtain ⟨hflight, fetch, hfetch, rfl⟩ := nextCall_eq_some_iff.mp h
  simp [refresh, hflight, hfetch]

def refusal (c : Cache) : Event :=
  if c.fetcher.isSome then .refreshInFlight else .fetcherNotConfigured

theorem refusal_ne_refreshStarted (c : Cache) : c.refusal ≠ .refreshStarted := by
  unfold refusal
  cases c.fetcher <;> exact nofun

theorem refresh_of_no_call (h : c.nextCall = none) (now : Moment) :
    c.refresh now = (c, [c.refusal], false) := by
  unfold refresh refusal
  cases hfetch : c.fetcher with
  | none => rfl
  | some fetch =>
    have hflight : c.inFlight = true := by simpa [hfetch] using nextCall_eq_none_iff.mp h
    simp [hflight]

theorem refreshInBackground_of_no_call (h : c.nextCall = none) (now : Moment) :
    c.refreshInBackground now = (c, [], false) := by
  unfold refreshInBackground
  cases hfetch : c.fetcher with
  | none => rfl
  | some fetch =>
    have hflight : c.inFlight = true := by simpa [hfetch] using nextCall_eq_none_iff.mp h
    simp [hflight]

theorem refreshInBackground_of_call (h : c.nextCall = some call) (now : Moment) :
    c.refreshInBackground now =
      let c' := c.after (.called call)
      if call.slow then (c', [.refreshStarted], true)
      else ((c'.land now).1, .refreshStarted :: (c'.land now).2, true) := by
  obtain ⟨hflight, fetch, hfetch, rfl⟩ := nextCall_eq_some_iff.mp h
  simp [refreshInBackground, hflight, hfetch, after]

theorem traces_refresh (c : Cache) (now : Moment) :
    c.Traces (c.refreshing now) (c.refresh now).1 (c.refresh now).2.1 := by
  unfold refreshing
  cases h : c.nextCall with
  | none =>
    rw [refresh_of_no_call h]
    exact .none (List.count_singleton.trans (by simp [refusal_ne_refreshStarted]))
  | some call =>
    obtain ⟨hstate, hlog, _⟩ := { c with fetches := c.fetches + 1 }.complete_eq call.outcome now
    have hflight : c.flight = none := inFlight_eq_false_iff.mp (nextCall_eq_some_iff.mp h).1
    rw [refresh_of_call h]
    refine ⟨⟨h, rfl, trivial⟩, ?_, ?_⟩
    · simp only [hstate]
      simp [Cache.replay, after, hflight]
    · rw [List.count_cons, hlog]
      rfl

theorem traces_land (c : Cache) (now : Moment) :
    c.Traces (c.landing now) (c.land now).1 (c.land now).2 := by
  unfold landing land
  cases h : c.flight with
  | none => exact .none rfl
  | some outcome =>
    obtain ⟨hstate, hlog, _⟩ := { c with flight := none }.complete_eq outcome now
    refine ⟨⟨h, trivial⟩, ?_, ?_⟩
    · exact hstate.symm
    · exact hlog

theorem traces_refreshInBackground (c : Cache) (now : Moment) :
    c.Traces (c.startingInBackground now) (c.refreshInBackground now).1
      (c.refreshInBackground now).2.1 := by
  unfold startingInBackground
  cases h : c.nextCall with
  | none =>
    rw [refreshInBackground_of_no_call h]
    exact .none rfl
  | some call =>
    have hcall : c.Traces [.called call] (c.after (.called call)) [.refreshStarted] :=
      ⟨⟨h, trivial⟩, rfl, rfl⟩
    rw [refreshInBackground_of_call h]
    by_cases hslow : call.slow = true
    · simp only [hslow, ↓reduceIte]
      exact hcall
    · simp only [hslow, Bool.false_eq_true, ↓reduceIte]
      exact hcall.append (traces_land (c.after (.called call)) now)

theorem traces_current (c : Cache) (now time : Moment) :
    c.Traces (c.reading now time) (c.current now time).1 (c.current now time).2.1 := by
  unfold reading current
  by_cases h : (c.isStale time && c.attemptDue time) = true
  · have hattempt : c.Traces [.attempted time] (c.after (.attempted time)) [] :=
      ⟨⟨trivial, trivial⟩, rfl, rfl⟩
    simp only [h, ↓reduceIte]
    exact hattempt.append (traces_refreshInBackground (c.after (.attempted time)) now)
  · simp only [h, Bool.false_eq_true, ↓reduceIte]
    exact .none rfl

theorem traces_check (c : Cache) (now : Moment) :
    c.Traces (c.checking now) (c.check now).1 (c.check now).2 := by
  unfold checking check
  by_cases h : c.isStale now = true
  · simp only [h, ↓reduceIte]
    exact traces_refresh c now
  · simp only [h, Bool.false_eq_true, ↓reduceIte]
    exact .none rfl

theorem traces_patrol (c : Cache) (now : Clock) (waits : List Interval) :
    c.Traces (c.patrolling now waits) (c.patrol now waits).1 (c.patrol now waits).2.1 := by
  induction waits generalizing c now with
  | nil => exact traces_check c now
  | cons wait waits ih => exact (traces_check c now).append (ih (c.check now).1 (now.advance wait))

end Cache

namespace ClockedCache

variable {s : ClockedCache} {ts : List Step}

def happenings (s : ClockedCache) : Step → List Happening
  | .tick _ | .askStale _ => []
  | .read time => s.cache.reading s.now (time.getD s.now)
  | .publish l loadedAt => [.published ⟨l, loadedAt.getD s.now⟩]
  | .refresh => s.cache.refreshing s.now
  | .refreshInBackground => s.cache.startingInBackground s.now
  | .land => s.cache.landing s.now
  | .patrol waits => s.cache.patrolling s.now waits

def trace (s : ClockedCache) : List Step → List Happening
  | [] => []
  | t :: ts => s.happenings t ++ (s.step t).1.trace ts

def log (s : ClockedCache) : List Step → List Event
  | [] => []
  | t :: ts => (s.step t).2.1 ++ (s.step t).1.log ts

theorem traces_step (s : ClockedCache) (t : Step) :
    s.cache.Traces (s.happenings t) (s.step t).1.cache (s.step t).2.1 := by
  cases t with
  | tick i => exact .none rfl
  | read time => exact Cache.traces_current s.cache s.now (time.getD s.now)
  | askStale time => exact .none rfl
  | publish l loadedAt => exact ⟨⟨trivial, trivial⟩, rfl, rfl⟩
  | refresh => exact Cache.traces_refresh s.cache s.now
  | refreshInBackground => exact Cache.traces_refreshInBackground s.cache s.now
  | land => exact Cache.traces_land s.cache s.now
  | patrol waits => exact Cache.traces_patrol s.cache s.now waits

theorem traces_run (s : ClockedCache) (ts : List Step) :
    s.cache.Traces (s.trace ts) (s.run ts).cache (s.log ts) := by
  induction ts generalizing s with
  | nil => exact .none rfl
  | cons t ts ih => exact (traces_step s t).append (ih (s.step t).1)

end ClockedCache

end ConsentGate
