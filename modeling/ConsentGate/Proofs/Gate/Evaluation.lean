import ConsentGate.Gate
import ConsentGate.Proofs.Consent.Check
import ConsentGate.Proofs.Consent.Parsing

namespace ConsentGate

section

variable {now : Moment} {f : TcfModel.Field} {i : Int}

theorem Consent.allows_denied : (denied now).allows f i = false := by cases f <;> rfl

theorem AdvertisingLevel.graded_eq {p b : Bool} {P B : Prop} [Decidable P] [Decidable B]
    (hp : p = true ↔ P) (hb : b = true ↔ B) :
    graded p b = if P then .personalized else if B then .basicOnly else .none := by
  simp only [graded, hp, hb]

end

namespace Gate

variable {g : Gate} {cache : Option Cache} {now time : Moment} {s : Signals} {ps : List Int}
  {c : Consent} {l : Option VendorList} {d : Decision}

/-- The vendor list that counts: the present one, if validation is on and there is a cache. -/
def listInForce (g : Gate) (cache : Option Cache) : Option VendorList :=
  if g.validates then cache.bind Cache.list else none

theorem list_current (c : Cache) (now time : Moment) : (c.current now time).2.2 = c.list := by
  unfold Cache.current
  split <;> rfl

theorem list_vendorList (g : Gate) (cache : Option Cache) (now time : Moment) :
    (g.vendorList cache now time).2.2 = g.listInForce cache := by
  unfold vendorList listInForce
  cases g.validates with
  | false => rfl
  | true =>
    cases cache with
    | none => rfl
    | some c => exact list_current c now time

theorem isAllowed_iff :
    (g.isAllowed c ps l).1 = true ↔
      (∀ p ∈ ps, c.allowsPurpose p = true) ∧ ∀ v ∈ g.vendorId, c.allowsVendor v = true ∧
        ∀ list ∈ l, list.lists v = true ∧ ∀ p ∈ ps, list.declares v p = true := by
  unfold isAllowed
  cases g.vendorId with
  | none => simp [Consent.allowsPurposes_iff]
  | some v =>
    simp only [Consent.isGranted_check_iff, Option.mem_def, Option.some.injEq, forall_eq']
    exact and_left_comm

theorem advertisingLevel_eq :
    (g.advertisingLevel c l).1 =
      .graded (g.isAllowed c PurposeGroup.advertising.ids l).1
        (g.isAllowed c PurposeGroup.basicAds.ids l).1 := by
  unfold advertisingLevel isAllowed
  cases g.vendorId <;> rfl

theorem judge_of_allowed (h : (g.verdict ps time c l).allowed = true) :
    (g.judge s ps time c l).result =
      (g.identify s).result.map fun ids => (g.verdict ps time c l).withIdentity ids.1 ids.2 := by
  simp only [judge, h, ↓reduceIte, Logged.result_bind, Logged.result_pure]
  cases (g.identify s).result <;> rfl

theorem judge_of_denied (h : (g.verdict ps time c l).allowed = false) :
    g.judge s ps time c l =
      ⟨g.checkEvents ps c l ++ [.personalizationDenied ps g.vendorId c.gdprApplies],
        .ok (g.verdict ps time c l)⟩ := by
  simp [judge, h]

/-- A decision is the verdict but for its ids. -/
theorem eq_of_judge (h : (g.judge s ps time c l).result = .ok d) :
    ∃ id provenance fresh, d =
      { g.verdict ps time c l with
        syntheticId := id
        provenance := provenance
        freshId := fresh } := by
  cases hv : (g.verdict ps time c l).allowed with
  | true =>
    rw [judge_of_allowed hv] at h
    cases hids : (g.identify s).result with
    | error e =>
      rw [hids] at h
      cases h
    | ok ids =>
      rw [hids] at h
      cases h
      exact ⟨_, _, _, rfl⟩
  | false =>
    rw [judge_of_denied hv] at h
    cases h
    exact ⟨_, _, _, rfl⟩

theorem verdict_of_judge (h : (g.judge s ps time c l).result = .ok d) :
    d.allowed = (g.verdict ps time c l).allowed ∧
      d.deviceAccess = (g.verdict ps time c l).deviceAccess ∧
        d.advertisingLevel = (g.verdict ps time c l).advertisingLevel := by
  obtain ⟨_, _, _, rfl⟩ := eq_of_judge h
  exact ⟨rfl, rfl, rfl⟩

theorem result_evaluate :
    (g.evaluate cache now s ps time).decision.result =
      (g.judge s ps time (g.consentFor now s).1 (g.listInForce cache)).result := by
  rw [← list_vendorList g cache now time]
  rfl

end Gate

end ConsentGate
