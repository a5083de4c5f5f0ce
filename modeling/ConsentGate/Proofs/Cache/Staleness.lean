import ConsentGate.Proofs.Cache.Contents

namespace ConsentGate

/-- Loaded longer ago than a limit, or never. -/
def Outdated (loadedAt : Option Moment) (limit : Interval) (time : Moment) : Prop :=
  ∀ loaded ∈ loadedAt, limit.micros < time.since loaded

/-- No region that a time and a load time both go by has changed its offset in between. -/
def Moment.SteadySince (loadedAt : Option Moment) (time : Moment) : Prop :=
  ∀ loaded ∈ loadedAt, time.Steady loaded

/-- What a test of age says of something that was loaded at a time or never. -/
structure JudgesAge (loadedAt : Option Moment) (limit : Interval) (stale : Moment → Bool) :
    Prop where
  never : loadedAt = none → ∀ t, stale t = true
  since : ∀ loaded, loadedAt = some loaded → ∀ t, stale t = true ↔ limit.micros < t.since loaded
  age : ∀ loaded, loadedAt = some loaded → ∀ t, t.Steady loaded →
    (stale t = true ↔ limit.micros < t.instant - loaded.instant)
  instant : ∀ t t', t.SteadySince loadedAt → t'.SteadySince loadedAt → t.instant = t'.instant →
    stale t = stale t'
  later : ∀ t t', t.SteadySince loadedAt → t'.SteadySince loadedAt → t.instant ≤ t'.instant →
    stale t = true → stale t' = true

variable {loadedAt loadedAt' : Option Moment} {limit : Interval} {t t' : Moment}

theorem outdated_iff_of_steadySince (h : t.SteadySince loadedAt) :
    Outdated loadedAt limit t ↔ ∀ loaded ∈ loadedAt, limit.micros < t.instant - loaded.instant :=
  forall₂_congr fun loaded hloaded => by rw [(h loaded hloaded).since_eq]

theorem Outdated.later (h : Outdated loadedAt limit t) (ht : t.SteadySince loadedAt)
    (ht' : t'.SteadySince loadedAt) (hle : t.instant ≤ t'.instant) :
    Outdated loadedAt limit t' := by
  rw [outdated_iff_of_steadySince ht']
  rw [outdated_iff_of_steadySince ht] at h
  intro loaded hloaded
  have hage := h loaded hloaded
  omega

theorem Cache.isStale_iff {c : Cache} :
    c.isStale t = true ↔ Outdated c.loadedAt c.refreshInterval t := by
  unfold isStale Moment.exceeds Outdated loadedAt
  cases c.snapshot <;> simp

theorem VendorList.isStale_iff {l : VendorList} :
    l.isStale limit t = true ↔ Outdated l.lastUpdated limit t := by
  unfold isStale Moment.exceeds Outdated
  cases l.lastUpdated <;> simp

theorem judgesAge_of_iff {stale : Moment → Bool}
    (h : ∀ t, stale t = true ↔ Outdated loadedAt limit t) : JudgesAge loadedAt limit stale where
  never := by
    rintro rfl t
    exact (h t).mpr nofun
  since := by
    rintro loaded rfl t
    rw [h, Outdated]
    simp
  age := by
    rintro loaded rfl t ht
    rw [h, Outdated, ← ht.since_eq]
    simp
  instant := by
    intro t t' ht ht' hinstant
    rw [Bool.eq_iff_iff, h, h, outdated_iff_of_steadySince ht, outdated_iff_of_steadySince ht',
      hinstant]
  later := by
    intro t t' ht ht' hle hstale
    exact (h t').mpr (((h t).mp hstale).later ht ht' hle)

theorem JudgesAge.eq_of_instants {stale stale' : Moment → Bool} (h : JudgesAge loadedAt limit stale)
    (h' : JudgesAge loadedAt' limit stale')
    (hloaded : loadedAt.map Moment.instant = loadedAt'.map Moment.instant)
    (ht : t.SteadySince loadedAt) (ht' : t.SteadySince loadedAt') : stale t = stale' t := by
  cases loadedAt with
  | none =>
    rw [Option.map_none, eq_comm, Option.map_eq_none_iff] at hloaded
    rw [h.never rfl t, h'.never hloaded t]
  | some loaded =>
    obtain ⟨loaded', hloaded', hinstant⟩ := Option.map_eq_some_iff.mp hloaded.symm
    rw [Bool.eq_iff_iff, h.age loaded rfl t (ht loaded rfl),
      h'.age loaded' hloaded' t (ht' loaded' hloaded'), hinstant]

namespace Cache

theorem isStale_replay {c : Cache} {hs : List Happening} (hwritten : ∀ h ∈ hs, h.written = none)
    (t : Moment) : (c.replay hs).isStale t = c.isStale t := by
  obtain ⟨-, -, hinterval⟩ := settings_replay c hs
  rw [isStale, isStale, snapshot_replay_of_no_write hwritten, hinterval]

end Cache

namespace ClockedCache

end ClockedCache

end ConsentGate
