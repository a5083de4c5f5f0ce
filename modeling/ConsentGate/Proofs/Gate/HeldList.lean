import ConsentGate.Proofs.Cache.Contents
import ConsentGate.Proofs.Gate.Coherence

namespace ConsentGate

def VendorList.Backs (l : VendorList) (v : Int) (ps : List Int) : Prop :=
  l.lists v = true ∧ ∀ p ∈ ps, l.declares v p = true

/-- The decision was made on the list, and what it grants to the vendor is what the list backs. -/
structure Decision.GoesBy (d : Decision) (l : VendorList) (v : Int) (ps : List Int) : Prop where
  version : d.vendorListVersion = some l.version
  allowed : d.allowed = true → l.Backs v ps
  deviceAccess : d.deviceAccess = true → l.Backs v PurposeGroup.deviceAccess.ids
  personalized : d.advertisingLevel = .personalized → l.Backs v PurposeGroup.advertising.ids
  basicOnly : d.advertisingLevel = .basicOnly → l.Backs v PurposeGroup.basicAds.ids

section

variable {p b : Bool}

theorem AdvertisingLevel.graded_eq_personalized_iff : graded p b = .personalized ↔ p = true := by
  cases p <;> cases b <;> decide

theorem AdvertisingLevel.graded_eq_basicOnly_iff :
    graded p b = .basicOnly ↔ p = false ∧ b = true := by
  cases p <;> cases b <;> decide

end

theorem Happening.list_getLast? (first : Option Snapshot) (hs : List Happening) :
    ((first.toList ++ hs.filterMap written).getLast?).map (·.list) =
      ((first.map (·.list)).toList ++ hs.filterMap fun h => h.written.map (·.list)).getLast? := by
  rw [← List.getLast?_map, List.map_append, List.map_filterMap]
  cases first <;> rfl

namespace Gate

variable {g : Gate} {cache : Option Cache} {now time : Moment} {s : Signals} {ps : List Int}
  {c : Consent} {l : VendorList} {d : Decision} {v : Int}

def decisionBy (g : Gate) (now : Moment) (s : Signals) (ps : List Int) (time : Moment)
    (held : Option VendorList) : Logged IdentityError Decision :=
  let (c, consentEvents) := g.consentFor now s
  let decision := g.judge s ps time c (if g.validates then held else none)
  { decision with events := consentEvents ++ decision.events }

theorem decision_evaluate (g : Gate) (cache : Option Cache) (now : Moment) (s : Signals)
    (ps : List Int) (time : Moment) :
    (g.evaluate cache now s ps time).decision =
      g.decisionBy now s ps time (cache.bind Cache.list) := by
  have hlist : (g.vendorList cache now time).2.2 =
      if g.validates then cache.bind Cache.list else none := list_vendorList g cache now time
  unfold decisionBy
  rw [← hlist]
  rfl

theorem version_of_decisionBy {held : Option VendorList}
    (h : (g.decisionBy now s ps time held).result = .ok d) :
    d.vendorListVersion = if g.validates then held.map (·.version) else none := by
  obtain ⟨_, _, _, rfl⟩ := eq_of_judge h
  cases g.validates <;> rfl

theorem backs_of_isAllowed (hv : g.vendorId = some v)
    (h : (g.isAllowed c ps (some l)).1 = true) : l.Backs v ps :=
  ((isAllowed_iff.mp h).2 v hv).2 l rfl

theorem goesBy_of_decisionBy (hg : g.validates = true) (hv : g.vendorId = some v)
    (h : (g.decisionBy now s ps time (some l)).result = .ok d) : d.GoesBy l v ps := by
  have hjudge : (g.judge s ps time (g.consentFor now s).1 (some l)).result = .ok d := by
    unfold decisionBy at h
    rwa [if_pos hg] at h
  obtain ⟨hallowed, haccess, hlevel⟩ := verdict_of_judge hjudge
  have hgraded : d.advertisingLevel = .graded _ _ := hlevel.trans advertisingLevel_eq
  refine ⟨?_, ?_, ?_, ?_, ?_⟩
  · rw [version_of_decisionBy h, if_pos hg]
    rfl
  · intro hd
    exact backs_of_isAllowed hv (hallowed.symm.trans hd)
  · intro hd
    exact backs_of_isAllowed hv (haccess.symm.trans hd)
  · intro hd
    have hall := AdvertisingLevel.graded_eq_personalized_iff.mp (hgraded.symm.trans hd)
    exact backs_of_isAllowed hv hall
  · intro hd
    obtain ⟨_, hbasic⟩ := AdvertisingLevel.graded_eq_basicOnly_iff.mp (hgraded.symm.trans hd)
    exact backs_of_isAllowed hv hbasic

end Gate

namespace ClockedCache

theorem list_pursue (s : ClockedCache) (as : List Activity) :
    (s.pursue as).cache.list =
      (s.cache.list.toList ++
        (s.history as).filterMap fun h => h.written.map (·.list)).getLast? := by
  rw [cache_pursue, Cache.list, Cache.snapshot_replay, Happening.list_getLast?]
  rfl

theorem list_pursue_ne_none {s : ClockedCache} (h : s.cache.list ≠ none) (as : List Activity) :
    (s.pursue as).cache.list ≠ none := by
  rw [Cache.list, Ne, Option.map_eq_none_iff] at h ⊢
  rw [cache_pursue]
  exact Cache.snapshot_replay_ne_none h _

/-- Each decision of a run goes by the list that the cache holds as its evaluation begins, which is
the last one written by then. A refresh that the evaluation itself starts shows only later, nothing
else of the cache counts at all, and once there is a list no decision goes without one. -/
theorem decided_by_held_list (now : Clock) (fetcher : Option Fetcher)
    (refreshInterval retryInterval : Interval) (initial : Option VendorList)
    (loadedAt : Option Moment) (as : List Activity) :
    let s₀ : ClockedCache :=
      ⟨now, .create now fetcher refreshInterval retryInterval initial loadedAt⟩
    let s := s₀.pursue as
    let held : Option VendorList :=
      (initial.toList ++ (s₀.history as).filterMap fun h => h.written.map (·.list)).getLast?
    (∀ (g : Gate) (signals : Signals) (ps : List Int) (time : Moment),
      (g.evaluate (some s.cache) s.now signals ps time).decision =
        g.decisionBy s.now signals ps time held) ∧
    (∀ (g : Gate) (cache : Option Cache) (clock : Moment) (signals : Signals) (ps : List Int)
        (time : Moment) (d : Decision),
      (g.evaluate cache clock signals ps time).decision.result = .ok d →
        d.vendorListVersion =
          if g.validates then (cache.bind Cache.list).map (·.version) else none) ∧
    (∀ c₁ c₂ : Cache, c₁.list = c₂.list →
      ∀ (g : Gate) (clock : Moment) (signals : Signals) (ps : List Int) (time : Moment),
        (g.evaluate (some c₁) clock signals ps time).decision =
          (g.evaluate (some c₂) clock signals ps time).decision) ∧
    (held ≠ none → ∀ bs, ∃ l, (s.pursue bs).cache.list = some l ∧
      ∀ (g : Gate) (v : Int), g.validates = true → g.vendorId = some v →
        ∀ (signals : Signals) (ps : List Int) (time : Moment) (d : Decision),
          (g.evaluate (some (s.pursue bs).cache) (s.pursue bs).now signals ps time).decision.result =
            .ok d → d.GoesBy l v ps) := by
  intro s₀ s held
  have hinitial : s₀.cache.list = initial := by
    cases initial <;> rfl
  have hheld : s.cache.list = held := by
    rw [list_pursue, hinitial]
  refine ⟨?_, ?_, ?_, ?_⟩
  · intro g signals ps time
    rw [Gate.decision_evaluate, ← hheld]
    rfl
  · intro g cache clock signals ps time d hd
    rw [Gate.decision_evaluate] at hd
    exact Gate.version_of_decisionBy hd
  · intro c₁ c₂ hlist g clock signals ps time
    rw [Gate.decision_evaluate, Gate.decision_evaluate, Option.bind_some, Option.bind_some, hlist]
  · intro hsome bs
    rw [← hheld] at hsome
    obtain ⟨l, hl⟩ := Option.ne_none_iff_exists'.mp (list_pursue_ne_none hsome bs)
    refine ⟨l, hl, fun g v hg hv signals ps time d hd => ?_⟩
    rw [Gate.decision_evaluate, Option.bind_some, hl] at hd
    exact Gate.goesBy_of_decisionBy hg hv hd

/-- An evaluation that finds its list stale and gets a new one at once still goes by the old one.
Only the next evaluation finds that the vendor is gone from the list. -/
theorem decision_beside_own_refresh :
    let vendor : Vendor := { id := 45, name := "v", purposes := [1] }
    let old : VendorList := { vendors := [(45, vendor)], version := 1 }
    let fetcher : Fetcher := fun _ => ⟨.list { version := 2 }, false⟩
    let clock : Clock := ⟨0, some 0⟩
    let s₀ : ClockedCache :=
      ⟨clock, .create clock (some fetcher) Cache.weekly Cache.hourly (some old) none⟩
    let as : List Activity := [.step (.tick ⟨Cache.weekly.micros + 1⟩)]
    let s := s₀.pursue as
    let idle : Cache := .create clock none Cache.hourly Cache.weekly (some old) (some s.now)
    let g : Gate := ⟨⟨[], [], "", ""⟩, some fun _ => .ok (.model ⟨[1], [45]⟩), some 45, true⟩
    let signals : Signals := { cookies := [("euconsent-v2", "t")] }
    let s' := s.pursue [.evaluate g signals [2] none]
    s.cache.isStale s.now = true ∧ idle.isStale s.now = false ∧ idle.list = s.cache.list ∧
      (g.evaluate (some idle) s.now signals [2] s.now).decision =
        (g.evaluate (some s.cache) s.now signals [2] s.now).decision ∧
      (∃ d, (g.evaluate (some s.cache) s.now signals [2] s.now).decision.result = .ok d ∧
        d.deviceAccess = true ∧ d.GoesBy old 45 [2]) ∧
      ∃ d, (g.evaluate (some s'.cache) s'.now signals [2] s'.now).decision.result = .ok d ∧
        d.deviceAccess = false ∧ d.GoesBy { version := 2 } 45 [2] := by
  intro vendor old fetcher clock s₀ as s idle g signals s'
  have hdenied : g.allows (some s.cache) s.now signals [2] = false := by decide +kernel +revert
  have hdenied' : g.allows (some s'.cache) s'.now signals [2] = false := by decide +kernel +revert
  have haccess : (g.verdict [2] s.now (g.consentFor s.now signals).1
      (g.listInForce (some s.cache))).deviceAccess = true := by decide +kernel +revert
  have haccess' : (g.verdict [2] s'.now (g.consentFor s'.now signals).1
      (g.listInForce (some s'.cache))).deviceAccess = false := by decide +kernel +revert
  obtain ⟨_, _, halike, hlater⟩ := decided_by_held_list clock (some fetcher) Cache.weekly
    Cache.hourly (some old) none as
  obtain ⟨l, hl, hgoes⟩ := hlater nofun []
  obtain ⟨l', hl', hgoes'⟩ := hlater nofun [.evaluate g signals [2] none]
  obtain rfl : old = l := Option.some.inj hl
  obtain rfl : { version := 2 } = l' := Option.some.inj hl'
  refine ⟨rfl, rfl, rfl, halike idle s.cache rfl g s.now signals [2] s.now, ?_, ?_⟩
  · have hd : (g.evaluate (some s.cache) s.now signals [2] s.now).decision.result = _ :=
      Gate.result_of_not_allows hdenied
    exact ⟨_, hd, haccess, hgoes g 45 rfl rfl signals [2] s.now _ hd⟩
  · have hd : (g.evaluate (some s'.cache) s'.now signals [2] s'.now).decision.result = _ :=
      Gate.result_of_not_allows hdenied'
    exact ⟨_, hd, haccess', hgoes' g 45 rfl rfl signals [2] s'.now _ hd⟩

end ClockedCache

end ConsentGate
