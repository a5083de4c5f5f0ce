import ConsentGate.Service
import ConsentGate.Proofs.Cache.Trace
import ConsentGate.Proofs.VendorList.Gvl

namespace ConsentGate

/-- Nothing comes of a call that fails, nor of one that returns a document that cannot be used. -/
def FetchOutcome.Barren : FetchOutcome → Prop
  | list _ => False
  | payload j => ¬VendorList.Gvl.Usable j
  | failed .. | invalid => True

theorem FetchOutcome.brought_eq_none_iff {outcome : FetchOutcome} {now : Moment} :
    outcome.brought now = none ↔ outcome.Barren := by
  cases outcome with
  | list l => simp [brought, Barren]
  | payload j =>
    have husable : (∃ l, VendorList.ofGvl now j = .ok l) ↔ VendorList.Gvl.Usable j :=
      VendorList.exists_ofGvl_iff
    rw [brought, Barren, ← husable, Option.eq_none_iff_forall_ne_some]
    simp [toOption_eq_some_iff]
  | failed kind message => simp [brought, Barren]
  | invalid => simp [brought, Barren]

theorem Happening.written_eq_none_iff {h : Happening} :
    h.written = none ↔ (∀ held, h ≠ published held) ∧
      ∀ outcome now, h = ended outcome now → outcome.Barren := by
  cases h with
  | attempted time => simp [written]
  | called call => simp [written]
  | published held => simp [written]
  | ended outcome now => simp [written, FetchOutcome.brought_eq_none_iff]

namespace Cache

variable {c : Cache} {hs : List Happening} {now time : Moment}

def loadedAt (c : Cache) : Option Moment := c.snapshot.map (·.loadedAt)

theorem snapshot_replay (c : Cache) (hs : List Happening) :
    (c.replay hs).snapshot = (c.snapshot.toList ++ hs.filterMap Happening.written).getLast? := by
  induction hs generalizing c with
  | nil => cases h : c.snapshot <;> simp [replay, h]
  | cons h hs ih =>
    have hafter : (c.after h).snapshot = h.written.or c.snapshot := by cases h <;> rfl
    have hreplay : c.replay (h :: hs) = (c.after h).replay hs := rfl
    rw [hreplay, ih, hafter]
    cases hw : h.written with
    | none => simp [hw]
    | some held => cases c.snapshot <;> simp [hw]

theorem snapshot_replay_of_no_write (h : ∀ x ∈ hs, x.written = none) :
    (c.replay hs).snapshot = c.snapshot := by
  have hwritten : hs.filterMap Happening.written = [] := List.filterMap_eq_nil_iff.mpr h
  rw [snapshot_replay, hwritten]
  cases c.snapshot <;> rfl

theorem snapshot_replay_ne_none (h : c.snapshot ≠ none) (hs : List Happening) :
    (c.replay hs).snapshot ≠ none := by
  obtain ⟨held, hheld⟩ := Option.ne_none_iff_exists'.mp h
  rw [snapshot_replay, hheld]
  simp

theorem refresh_tells (c : Cache) (now : Moment) :
    (c.refresh now).2.2 = (c.refreshing now).any fun h => h.written.isSome := by
  unfold refreshing
  cases h : c.nextCall with
  | none =>
    rw [refresh_of_no_call h]
    rfl
  | some call =>
    obtain ⟨_, _, htold⟩ := { c with fetches := c.fetches + 1 }.complete_eq call.outcome now
    rw [refresh_of_call h]
    simpa [Happening.written] using htold

end Cache

namespace Gate

theorem cache_evaluate (g : Gate) (c : Cache) (now : Moment) (s : Signals) (ps : List Int)
    (time : Moment) :
    (g.evaluate (some c) now s ps time).cache =
      some (if g.validates then (c.current now time).1 else c) := by
  unfold Gate.evaluate Gate.vendorList
  cases g.validates <;> rfl

end Gate

namespace Service

theorem cache_decide (sv : Service) (now : Moment) (r : Http.Request) :
    (sv.decide now r).1.cache =
      match requestedPurposes (.ofString r.query) with
      | .value _ => if sv.gate.validates then (sv.cache.current now now).1 else sv.cache
      | .issues _ => sv.cache := by
  simp only [decide]
  cases requestedPurposes (.ofString r.query) with
  | issues found => rfl
  | value ps =>
    simp only [Gate.cache_evaluate, Option.getD_some]
    cases (sv.gate.evaluate (some sv.cache) now r.signals ps now).decision.result <;> rfl

theorem cache_handle (sv : Service) (now : Moment) (r : Http.Request) :
    (sv.handle now r).1.cache =
      if r.destination = .route .decision then (sv.decide now r).1.cache else sv.cache := by
  unfold handle
  cases r.destination with
  | route route => cases route <;> rfl
  | _ => rfl

end Service

namespace ClockedCache

/-- What goes on around a cache: its own steps, gates that go by it and requests to a service. -/
inductive Activity where
  | step (t : Step)
  | evaluate (g : Gate) (signals : Signals) (ps : List Int) (time : Option Moment)
  | handle (settings : Settings) (g : Gate) (r : Http.Request)

def perform (s : ClockedCache) : Activity → ClockedCache
  | .step t => (s.step t).1
  | .evaluate g signals ps time =>
    let run := g.evaluate (some s.cache) s.now signals ps (time.getD s.now)
    { s with cache := run.cache.getD s.cache }
  | .handle settings g r =>
    let service : Service := ⟨settings, g, s.cache⟩
    { s with cache := (service.handle s.now r).1.cache }

def pursue (s : ClockedCache) (as : List Activity) : ClockedCache := as.foldl perform s

def readsOf (g : Gate) (time : Option Moment) : List Step :=
  if g.validates then [.read time] else []

def Activity.steps : Activity → List Step
  | step t => [t]
  | evaluate g _ _ time => readsOf g time
  -- A request that is refused for its purposes does not come to a gate.
  | handle _ g r =>
    match r.destination, Service.requestedPurposes (.ofString r.query) with
    | .route .decision, .value _ => readsOf g none
    | _, _ => []

def history (s : ClockedCache) (as : List Activity) : List Happening :=
  s.trace (as.flatMap Activity.steps)

variable {s : ClockedCache} {as bs : List Activity}

theorem run_append (s : ClockedCache) (ts us : List Step) :
    s.run (ts ++ us) = (s.run ts).run us := List.foldl_append

theorem run_readsOf (s : ClockedCache) (g : Gate) (time : Option Moment) :
    s.run (readsOf g time) =
      { s with
        cache := if g.validates then (s.cache.current s.now (time.getD s.now)).1 else s.cache } := by
  unfold readsOf
  cases g.validates <;> rfl

theorem perform_eq_run (s : ClockedCache) (a : Activity) : s.perform a = s.run a.steps := by
  cases a with
  | step t => rfl
  | evaluate g signals ps time =>
    rw [Activity.steps, run_readsOf, perform, Gate.cache_evaluate, Option.getD_some]
  | handle settings g r =>
    rw [perform, Service.cache_handle, Service.cache_decide, Activity.steps]
    cases r.destination with
    | route route =>
      cases route with
      | decision =>
        cases Service.requestedPurposes (.ofString r.query) with
        | value ps => exact (run_readsOf s g none).symm
        | issues found => rfl
      | vendorList => rfl
    | _ => rfl

theorem pursue_eq_run (s : ClockedCache) (as : List Activity) :
    s.pursue as = s.run (as.flatMap Activity.steps) := by
  induction as generalizing s with
  | nil => rfl
  | cons a as ih =>
    rw [List.flatMap_cons, run_append, ← perform_eq_run]
    exact ih (s.perform a)

theorem cache_pursue (s : ClockedCache) (as : List Activity) :
    (s.pursue as).cache = s.cache.replay (s.history as) := by
  rw [pursue_eq_run, history, (traces_run s _).replay]

theorem cache_perform (s : ClockedCache) (a : Activity) :
    (s.perform a).cache = s.cache.replay (s.history [a]) := cache_pursue s [a]

/-- A cache holds what was written last: the list that it began with, one that was published, or one
that a fetch brought, loaded when the fetch ended. Nothing else changes what it holds. -/
theorem held_is_last_written (now : Clock) (fetcher : Option Fetcher)
    (refreshInterval retryInterval : Interval) (initial : Option VendorList)
    (loadedAt : Option Moment) (as : List Activity) :
    let s₀ : ClockedCache :=
      ⟨now, .create now fetcher refreshInterval retryInterval initial loadedAt⟩
    let first : Option Snapshot := initial.map fun l => ⟨l, loadedAt.getD now⟩
    let s := s₀.pursue as
    s.cache.snapshot = (first.toList ++ (s₀.history as).filterMap Happening.written).getLast? ∧
    (s.cache.list = none ↔ s.cache.loadedAt = none) ∧
    (s.cache.list ≠ none → ∀ bs, (s.pursue bs).cache.list ≠ none) ∧
    (∀ a, (∀ held, .published held ∉ s.history [a]) →
      (∀ outcome time, .ended outcome time ∈ s.history [a] → outcome.Barren) →
      (s.perform a).cache.snapshot = s.cache.snapshot) ∧
    (s.step .refresh).2.2 = .told ((s.happenings .refresh).any fun h => h.written.isSome) := by
  intro s₀ first s
  refine ⟨?_, ?_, ?_, ?_, ?_⟩
  · have hcache : s.cache = s₀.cache.replay (s₀.history as) := cache_pursue s₀ as
    rw [hcache, Cache.snapshot_replay]
    rfl
  · rw [Cache.list, Cache.loadedAt, Option.map_eq_none_iff, Option.map_eq_none_iff]
  · intro hlist bs
    rw [Cache.list, Ne, Option.map_eq_none_iff] at hlist ⊢
    rw [cache_pursue]
    exact Cache.snapshot_replay_ne_none hlist _
  · intro a hpublished hended
    rw [cache_perform]
    apply Cache.snapshot_replay_of_no_write
    intro h hmem
    rw [Happening.written_eq_none_iff]
    constructor
    · rintro held rfl
      exact hpublished held hmem
    · rintro outcome time rfl
      exact hended outcome time hmem
  · exact congrArg Reply.told (Cache.refresh_tells s.cache s.now)

/-- Of three calls the first fails and the second returns a document without vendors. The list that
is published meanwhile stays until the third call brings a document that can be used. -/
theorem held_after_late_fetch :
    let down : FetchOutcome := .failed "ConnectionError" "down"
    let document : Json := .object [("vendorListVersion", .int 2),
      ("vendors", .object [("7", .object [("purposes", .array [.int 1])])])]
    let outcomes : List FetchOutcome := [down, .payload .null, .payload document]
    let fetcher : Fetcher := fun n => ⟨outcomes.getD n down, true⟩
    let start : Clock := ⟨0, some 0⟩
    let s₀ : ClockedCache :=
      ⟨start, .create start (some fetcher) Cache.weekly Cache.hourly none none⟩
    let late : Moment := ⟨Cache.weekly.micros + 1, some .utc⟩
    let before : List Activity :=
      [.step .refreshInBackground, .step (.publish { version := 1 } none)]
    let meanwhile : List Activity := before ++ [.step .land, .step (.read late)]
    let as : List Activity :=
      meanwhile ++ [.step .land, .step .refreshInBackground, .step (.tick ⟨5⟩), .step .land]
    let ended : Moment := ⟨5, some .utc⟩
    let brought : VendorList :=
      { vendors := [(7, { id := 7, name := [], purposes := [1] })]
        lastUpdated := some ended
        version := 2 }
    let s := s₀.pursue before
    let s' := s₀.pursue meanwhile
    (s.history [.step .land] = [.ended down start] ∧
      (s.perform (.step .land)).cache.snapshot = s.cache.snapshot) ∧
    (s'.history [.step .land] = [.ended (.payload .null) start] ∧
      (s'.perform (.step .land)).cache.snapshot = s'.cache.snapshot) ∧
    (s₀.history as).filterMap Happening.written = [⟨{ version := 1 }, start⟩, ⟨brought, ended⟩] ∧
    (s₀.pursue as).cache.snapshot = some ⟨brought, ended⟩ := by
  intro down document outcomes fetcher start s₀ late before meanwhile as ended brought s s'
  have hdown : s.history [.step .land] = [.ended down start] := rfl
  have hnull : s'.history [.step .land] = [.ended (.payload .null) start] := rfl
  have hwritten : (s₀.history as).filterMap Happening.written =
      [⟨{ version := 1 }, start⟩, ⟨brought, ended⟩] := by decide +kernel
  obtain ⟨_, _, _, hunchanged, _⟩ := held_is_last_written start (some fetcher) Cache.weekly
    Cache.hourly none none before
  obtain ⟨_, _, _, hunchanged', _⟩ := held_is_last_written start (some fetcher) Cache.weekly
    Cache.hourly none none meanwhile
  obtain ⟨hheld, _⟩ := held_is_last_written start (some fetcher) Cache.weekly Cache.hourly
    none none as
  refine ⟨⟨hdown, hunchanged (.step .land) ?_ ?_⟩, ⟨hnull, hunchanged' (.step .land) ?_ ?_⟩,
    hwritten, ?_⟩
  · intro held hmem
    cases List.mem_singleton.mp hmem
  · intro outcome time hmem
    cases List.mem_singleton.mp hmem
    trivial
  · intro held hmem
    cases List.mem_singleton.mp hmem
  · intro outcome time hmem
    cases List.mem_singleton.mp hmem
    rintro ⟨⟨_, hvendors, _⟩, _, _⟩
    cases hvendors
  · rw [hwritten] at hheld
    exact hheld

end ClockedCache

end ConsentGate
