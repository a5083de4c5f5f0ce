import ConsentGate.Service
import ConsentGate.Proofs.Gate.Evaluation

namespace ConsentGate

/-- Two requests come with one consent string, or both come without any. -/
def Signals.SameConsent (s₁ s₂ : Signals) : Prop :=
  s₁.cookie Consent.cookieName = s₂.cookie Consent.cookieName

namespace Gate

variable {g : Gate} {cache : Option Cache} {now time : Moment} {s s₁ s₂ : Signals} {ps : List Int}
  {c : Consent} {l : Option VendorList} {d : Decision}

def Denies (g : Gate) (cache : Option Cache) (now : Moment) (s : Signals) (ps : List Int)
    (time : Moment) : Prop :=
  ∃ d, (g.evaluate cache now s ps time).decision.result = .ok d ∧ d.allowed = false

theorem consentFor_congr (h : s₁.SameConsent s₂) (g : Gate) (now : Moment) :
    g.consentFor now s₁ = g.consentFor now s₂ := by
  unfold consentFor Consent.ofSignals
  rw [h]

theorem verdict_of_denies (h : g.Denies cache now s ps time) :
    (g.verdict ps time (g.consentFor now s).1 (g.listInForce cache)).allowed = false := by
  obtain ⟨d, hd, hdenied⟩ := h
  rw [result_evaluate] at hd
  rw [← (verdict_of_judge hd).1]
  exact hdenied

theorem judge_congr_of_denied (h : (g.verdict ps time c l).allowed = false) (s₁ s₂ : Signals) :
    g.judge s₁ ps time c l = g.judge s₂ ps time c l := by
  rw [judge_of_denied h, judge_of_denied h]

theorem evaluate_congr_of_denies (hconsent : s₁.SameConsent s₂) (h : g.Denies cache now s₁ ps time) :
    g.evaluate cache now s₁ ps time = g.evaluate cache now s₂ ps time := by
  have hverdict := verdict_of_denies h
  rw [← list_vendorList g cache now time] at hverdict
  simp only [evaluate, ← consentFor_congr hconsent g now, judge_congr_of_denied hverdict s₁ s₂]

end Gate

namespace Service

open Http

variable {sv : Service} {now : Moment} {r r₁ r₂ : Request} {ps : List Int} {d : Decision}

def AsksFor (r : Request) (ps : List Int) : Prop :=
  r.destination = .route .decision ∧ requestedPurposes (.ofString r.query) = .value ps

theorem handle_of_decision (h : AsksFor r ps)
    (hd : (sv.gate.evaluate (some sv.cache) now r.signals ps now).decision.result = .ok d) :
    sv.handle now r =
      let run := sv.gate.evaluate (some sv.cache) now r.signals ps now
      ({ sv with cache := run.cache.getD sv.cache },
        send (decisionReply sv.settings.publisher.cookieDomain d),
        run.decision.events ++ run.refreshEvents) := by
  obtain ⟨hdestination, hpurposes⟩ := h
  simp only [handle, hdestination, decide, hpurposes, hd]

theorem handle_congr_of_denies (h₁ : AsksFor r₁ ps) (h₂ : AsksFor r₂ ps)
    (hconsent : r₁.signals.SameConsent r₂.signals)
    (h : sv.gate.Denies (some sv.cache) now r₁.signals ps now) :
    sv.handle now r₁ = sv.handle now r₂ := by
  have heq := Gate.evaluate_congr_of_denies hconsent h
  obtain ⟨d, hd, _⟩ := h
  rw [handle_of_decision h₁ hd, heq]
  rw [heq] at hd
  rw [handle_of_decision h₂ hd]

end Service

/-- Of a request that is denied nothing but the consent string shows: with the same one any other
request is denied as well, by the same decision, with the same events and the same reply. -/
theorem denied_requests_alike {s₁ s₂ : Signals} (hconsent : s₁.SameConsent s₂) :
    (∀ (g : Gate) (cache : Option Cache) (now : Moment) (ps : List Int) (time : Moment),
      g.Denies cache now s₁ ps time →
        g.Denies cache now s₂ ps time ∧
          g.evaluate cache now s₁ ps time = g.evaluate cache now s₂ ps time) ∧
    ∀ (sv : Service) (now : Moment) (ps : List Int) (r₁ r₂ : Http.Request),
      r₁.signals = s₁ → r₂.signals = s₂ → Service.AsksFor r₁ ps → Service.AsksFor r₂ ps →
        sv.gate.Denies (some sv.cache) now s₁ ps now → sv.handle now r₁ = sv.handle now r₂ := by
  constructor
  · intro g cache now ps time h
    have heq := Gate.evaluate_congr_of_denies hconsent h
    refine ⟨?_, heq⟩
    rw [Gate.Denies, ← heq]
    exact h
  · rintro sv now ps r₁ r₂ rfl rfl h₁ h₂ h
    exact Service.handle_congr_of_denies h₁ h₂ hconsent h

/-- One sender is known by a stored id and the other by an address. -/
theorem denied_requests_alike_with_stored_id :
    let gate : Gate := ⟨⟨"key", "id", "x-id", "synthetic_id"⟩, none, none, true⟩
    let cache := Cache.create ⟨0, some .utc⟩ none Cache.weekly Cache.hourly none none
    let sv : Service := ⟨{ synthetic := ⟨[], []⟩ }, gate, cache⟩
    let r₁ : Http.Request :=
      { path := "/privacy/decision", headers := [("Cookie", "synthetic_id=a")] }
    let r₂ : Http.Request := { path := "/privacy/decision", client := some "10.0.0.1" }
    r₁.signals.cookie "synthetic_id" = some (.ofString "a") ∧ r₂.signals.cookie "synthetic_id" = none ∧
      r₁.signals.SameConsent r₂.signals ∧ Service.AsksFor r₁ [1] ∧ Service.AsksFor r₂ [1] ∧
      gate.Denies (some cache) ⟨0, some .utc⟩ r₁.signals [1] ⟨0, some .utc⟩ ∧
      gate.Denies (some cache) ⟨0, some .utc⟩ r₂.signals [1] ⟨0, some .utc⟩ ∧
      sv.handle ⟨0, some .utc⟩ r₁ = sv.handle ⟨0, some .utc⟩ r₂ := by
  intro gate cache sv r₁ r₂
  have hstored : r₁.signals.cookie "synthetic_id" = some (.ofString "a") := by
    decide +kernel +revert
  have hconsent : r₁.signals.SameConsent r₂.signals := by
    unfold Signals.SameConsent
    decide +kernel +revert
  have hasks₁ : Service.AsksFor r₁ [1] := ⟨rfl, rfl⟩
  have hasks₂ : Service.AsksFor r₂ [1] := ⟨rfl, rfl⟩
  have hdenies : gate.Denies (some cache) ⟨0, some .utc⟩ r₁.signals [1] ⟨0, some .utc⟩ :=
    ⟨_, rfl, rfl⟩
  obtain ⟨hgate, hservice⟩ := denied_requests_alike hconsent
  exact ⟨hstored, rfl, hconsent, hasks₁, hasks₂, hdenies, (hgate gate (some cache) _ [1] _ hdenies).1,
    hservice sv ⟨0, some .utc⟩ [1] r₁ r₂ rfl rfl hasks₁ hasks₂ hdenies⟩

end ConsentGate
