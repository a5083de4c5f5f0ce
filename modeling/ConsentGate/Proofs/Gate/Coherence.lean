import ConsentGate.Proofs.Gate.Evaluation
import ConsentGate.Proofs.Identity.Resolution

namespace ConsentGate.Gate

variable {g : Gate} {cache : Option Cache} {now time : Moment} {s : Signals} {ps : List Int}
  {d : Decision} {identity : Identity} {e : IdentityError}

/-- Whether the purposes are granted, be there an id for the request or not. -/
def allows (g : Gate) (cache : Option Cache) (now : Moment) (s : Signals) (ps : List Int) : Bool :=
  (g.isAllowed (g.consentFor now s).1 ps (g.listInForce cache)).1

def generated (g : Gate) (s : Signals) : Except IdentityError Text :=
  (Identity.generate g.resolver.secret g.resolver.template (.ofSignals s)).map .ofString

/-- The id that is derived is the fresh one whether it serves as the stable one or not. -/
theorem result_identify :
    (g.identify s).result =
      (g.generated s).map fun fresh =>
        ((g.resolver.propagated s).getD ⟨fresh, .generated⟩, fresh) := by
  simp only [identify, Logged.result_bind, Resolver.result_resolve, generated]
  cases hp : g.resolver.propagated s with
  | none =>
    cases Identity.generate g.resolver.secret g.resolver.template (.ofSignals s) <;> rfl
  | some identity =>
    have hpropagated : identity.provenance ≠ .generated := (Resolver.ne_of_propagated hp).2
    simp only [Option.elim_some, Except.bind, hpropagated, ↓reduceIte, Logged.result_bind,
      Resolver.result_freshId, Logged.result_pure]
    cases Identity.generate g.resolver.secret g.resolver.template (.ofSignals s) <;> rfl

theorem result_of_allows (h : g.allows cache now s ps = true) :
    (g.evaluate cache now s ps time).decision.result =
      (g.generated s).map fun fresh =>
        (g.verdict ps time (g.consentFor now s).1 (g.listInForce cache)).withIdentity
          ((g.resolver.propagated s).getD ⟨fresh, .generated⟩) fresh := by
  rw [result_evaluate, judge_of_allowed h, result_identify]
  cases g.generated s <;> rfl

theorem result_of_not_allows (h : g.allows cache now s ps = false) :
    (g.evaluate cache now s ps time).decision.result =
      .ok (g.verdict ps time (g.consentFor now s).1 (g.listInForce cache)) := by
  rw [result_evaluate, judge_of_denied h]

theorem generated_eq_ok {digits : String}
    (h : Identity.generate g.resolver.secret g.resolver.template (.ofSignals s) = .ok digits) :
    g.generated s = .ok (.ofString digits) := by
  rw [generated, h]
  rfl

theorem exists_generated {t : Template} (hsecret : g.resolver.secret ≠ [])
    (hkey : g.resolver.secret.Whole)
    (ht : Template.parseWith Attribute.names g.resolver.template = .ok t)
    (htemplate : g.resolver.template.Whole) (hs : (Attributes.ofSignals s).Whole) :
    ∃ id, g.generated s = .ok id := by
  obtain ⟨digits, hdigits⟩ := Identity.exists_generate hsecret hkey ht htemplate hs
  exact ⟨.ofString digits, generated_eq_ok hdigits⟩

theorem exists_result_of_allows {id : Text} (h : g.allows cache now s ps = true)
    (hid : g.generated s = .ok id) :
    ∃ d, (g.evaluate cache now s ps time).decision.result = .ok d := by
  rw [result_of_allows h, hid]
  exact ⟨_, rfl⟩

theorem allowed_eq_allows (hd : (g.evaluate cache now s ps time).decision.result = .ok d) :
    d.allowed = g.allows cache now s ps := by
  rw [result_evaluate] at hd
  exact (verdict_of_judge hd).1

theorem exists_identity_of_allowed
    (hd : (g.evaluate cache now s ps time).decision.result = .ok d) (h : d.allowed = true) :
    ∃ fresh, g.generated s = .ok fresh ∧ d.freshId = some fresh ∧
      d.syntheticId = ((g.resolver.propagated s).getD ⟨fresh, .generated⟩).value ∧
      d.provenance = some ((g.resolver.propagated s).getD ⟨fresh, .generated⟩).provenance := by
  rw [allowed_eq_allows hd] at h
  rw [result_of_allows h, map_eq_ok_iff] at hd
  obtain ⟨fresh, hfresh, rfl⟩ := hd
  exact ⟨fresh, hfresh, rfl, rfl, rfl⟩

theorem ne_nil_of_generated {fresh : Text} (h : g.generated s = .ok fresh) : fresh ≠ [] := by
  obtain ⟨digits, hdigits, rfl⟩ := map_eq_ok_iff.mp h
  exact Identity.ne_nil_of_generate hdigits

theorem narrow_of_freshId (hd : (g.evaluate cache now s ps time).decision.result = .ok d)
    (h : d.allowed = true) : ∀ fresh ∈ d.freshId, fresh.Narrow := by
  obtain ⟨fresh, hfresh, hfreshId, _⟩ := exists_identity_of_allowed hd h
  rintro x hx
  obtain rfl : fresh = x := Option.some.inj (hfreshId.symm.trans hx)
  obtain ⟨digits, hdigits, rfl⟩ := map_eq_ok_iff.mp hfresh
  exact Identity.narrow_of_generate hdigits

theorem ne_nil_of_allowed (hd : (g.evaluate cache now s ps time).decision.result = .ok d)
    (h : d.allowed = true) : d.syntheticId ≠ [] := by
  obtain ⟨fresh, hfresh, _, hid, _⟩ := exists_identity_of_allowed hd h
  rw [hid]
  exact (Resolver.getD_propagated (ne_nil_of_generated hfresh)).1

theorem identity_of_propagated (hd : (g.evaluate cache now s ps time).decision.result = .ok d)
    (h : d.allowed = true) (hp : g.resolver.propagated s = some identity) :
    d.syntheticId = identity.value ∧ d.provenance = some identity.provenance := by
  obtain ⟨fresh, _, _, hid, hprovenance⟩ := exists_identity_of_allowed hd h
  rw [hp] at hid hprovenance
  exact ⟨hid, hprovenance⟩

/-- The parts of a decision go together. An allowed request has the id that the resolver gives it
and always the fresh one that its attributes give, and without the latter there is no decision. -/
theorem decision_coheres (g : Gate) (cache : Option Cache) (now : Moment) (s : Signals)
    (ps : List Int) (time : Moment) :
    let result := (g.evaluate cache now s ps time).decision.result
    let generated :=
      (Identity.generate g.resolver.secret g.resolver.template (.ofSignals s)).map Text.ofString
    (∀ d, result = .ok d →
      d.allowed = g.allows cache now s ps ∧
      (d.allowed = true ↔ d.provenance ≠ none) ∧ (d.allowed = true ↔ d.freshId ≠ none) ∧
      (d.allowed = true ↔ d.isPersonalized = true) ∧
      (d.allowed = false → d.syntheticId = Decision.placeholder) ∧
      (d.allowed = true → ∃ fresh identity, generated = .ok fresh ∧ d.freshId = some fresh ∧
        (g.resolver.resolve s (.ofSignals s)).result = .ok identity ∧
        d.syntheticId = identity.value ∧ d.provenance = some identity.provenance ∧
        d.syntheticId ≠ [] ∧ (d.provenance = some .generated → d.syntheticId = fresh))) ∧
    ∀ e, result = .error e ↔ g.allows cache now s ps = true ∧ generated = .error e := by
  intro result generated
  cases hallows : g.allows cache now s ps with
  | false =>
    obtain ⟨v, hresult, hdenied, hprovenance, hfresh, hid⟩ : ∃ v : Decision, result = .ok v ∧
        v.allowed = false ∧ v.provenance = none ∧ v.freshId = none ∧
          v.syntheticId = Decision.placeholder :=
      ⟨_, result_of_not_allows hallows, hallows, rfl, rfl, rfl⟩
    rw [hresult]
    refine ⟨?_, fun e => by simp⟩
    rintro d ⟨⟩
    simp [hdenied, hprovenance, hfresh, hid, Decision.isPersonalized]
  | true =>
    refine ⟨?_, fun e => ?_⟩
    · intro d hd
      have hallowed : d.allowed = true := (allowed_eq_allows hd).trans hallows
      obtain ⟨fresh, hfresh, hfreshId, hid, hprovenance⟩ := exists_identity_of_allowed hd hallowed
      obtain ⟨digits, hdigits, rfl⟩ := map_eq_ok_iff.mp hfresh
      have hresolve := Resolver.result_resolve_of_generate (s := s) hdigits
      obtain ⟨hne, hgenerated⟩ := Resolver.getD_propagated (r := g.resolver) (s := s)
        (Identity.ne_nil_of_generate hdigits)
      simp only [hallowed, hprovenance, hfreshId, hid, Decision.isPersonalized, Option.some.injEq]
      refine ⟨trivial, by simp, by simp, by simp, by simp, fun _ => ?_⟩
      exact ⟨_, _, hfresh, rfl, hresolve, rfl, rfl, hne, hgenerated⟩
    · have hresult : result = generated.map _ := result_of_allows hallows
      rw [hresult, map_eq_error_iff]
      exact (and_iff_right rfl).symm

/-- An id in the header stays, beside the fresh one that the address of the sender gives. -/
theorem fresh_id_beside_header :
    let g : Gate := ⟨⟨.ofString "key", .ofString "\x7b\x7bclient_ip\x7d\x7d", "x-id", "id"⟩,
      some fun _ => .ok (.model ⟨[1], []⟩), none, false⟩
    let s : Signals := { headers := [("x-id", "a")],
                         cookies := [("euconsent-v2", "t"), ("id", "b")],
                         clientIp := some "10.0.0.1" }
    ∃ d fresh, (g.evaluate none ⟨0, some .utc⟩ s [1] ⟨0, some .utc⟩).decision.result = .ok d ∧
      g.allows none ⟨0, some .utc⟩ s [1] = true ∧ d.isPersonalized = true ∧ d.syntheticId = "a" ∧
      Identity.generate (.ofString "key") (.ofString "\x7b\x7bclient_ip\x7d\x7d") (.ofSignals s) =
        .ok fresh ∧
      d.freshId = some (.ofString fresh) := by
  intro g s
  have hheader : (g.resolver.resolve s (.ofSignals s)).result = .ok ⟨"a", .fromHeader⟩ := by
    decide +kernel +revert
  have hallows : g.allows none ⟨0, some .utc⟩ s [1] = true := rfl
  have hparse : Template.parseWith Attribute.names g.resolver.template =
      .ok [.tag ⟨false, .ofString "client_ip"⟩] := by decide +kernel +revert
  have hsecret : g.resolver.secret ≠ [] := nofun
  have hwhole : (Attributes.ofSignals s).Whole := by decide
  obtain ⟨id, hid⟩ : ∃ id, g.generated s = .ok id :=
    exists_generated hsecret (Text.whole_ofChars _) hparse (Text.whole_ofChars _) hwhole
  obtain ⟨d, hd⟩ : ∃ d,
      (g.evaluate none ⟨0, some .utc⟩ s [1] ⟨0, some .utc⟩).decision.result = .ok d :=
    exists_result_of_allows hallows hid
  obtain ⟨hcoheres, _⟩ := decision_coheres g none ⟨0, some .utc⟩ s [1] ⟨0, some .utc⟩
  obtain ⟨hallowed, _, _, hpersonalized, _, hids⟩ := hcoheres d hd
  obtain ⟨fresh, identity, hfresh, hfreshId, hresolve, hvalue, _⟩ := hids (hallowed.trans hallows)
  obtain rfl := Except.ok.inj (hheader.symm.trans hresolve)
  obtain ⟨digits, hdigits, rfl⟩ := map_eq_ok_iff.mp hfresh
  exact ⟨d, digits, hd, hallows, hpersonalized.mp (hallowed.trans hallows), hvalue, hdigits, hfreshId⟩

end ConsentGate.Gate
