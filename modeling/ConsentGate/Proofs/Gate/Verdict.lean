import ConsentGate.Proofs.Gate.Evaluation

namespace ConsentGate.Gate

variable {g : Gate} {now time : Moment} {s : Signals} {ps qs : List Int} {c : Consent} {m : TcfModel}
  {l : Option VendorList} {f : TcfModel.Field} {i : Int}

def DecodesModels (g : Gate) : Prop :=
  ∀ decode ∈ g.decoder, ∀ t d, decode t = .ok d → ∃ m, d = .model m

/-- The ids of the consent string that a request comes with, none where it cannot be decoded. -/
def consentedIds (g : Gate) (s : Signals) : TcfModel :=
  match s.cookie Consent.cookieName, g.decoder with
  | some t, some decode =>
    if t = [] then {}
    else match decode t with
      | .ok (.model m) => m
      | _ => {}
  | _, _ => {}

/-- All the purposes are consented to and, where a vendor is set, so is the vendor, for which the
vendor list, where there is one, has each of the purposes. -/
def Grants (g : Gate) (m : TcfModel) (l : Option VendorList) (qs : List Int) : Prop :=
  (∀ q ∈ qs, q ∈ m.purposes) ∧ ∀ v ∈ g.vendorId, v ∈ m.vendors ∧
    ∀ list ∈ l, ∃ info ∈ list.get? v, ∀ q ∈ qs, q ∈ info.purposes ∨ q ∈ info.legitimateInterests

instance : Decidable (g.Grants m l qs) := by
  unfold Grants
  infer_instance

theorem consentedIds_of_decoded {decode : Decoder} {t : Text}
    (hcookie : s.cookie Consent.cookieName = some t) (ht : t ≠ [])
    (hdecoder : g.decoder = some decode) (hm : decode t = .ok (.model m)) : g.consentedIds s = m := by
  simp only [consentedIds, hcookie, hdecoder, hm, ht, ↓reduceIte]

theorem consentedIds_of_parse_eq_none {t : Text} (hmodels : g.DecodesModels)
    (hcookie : s.cookie Consent.cookieName = some t)
    (h : (Consent.parse now g.decoder t).1 = none) :
    g.consentedIds s = {} := by
  cases hdecoder : g.decoder with
  | none => simp only [consentedIds, hcookie, hdecoder]
  | some decode =>
    by_cases ht : t = []
    · simp only [consentedIds, hcookie, hdecoder, ht, ↓reduceIte]
    · cases hd : decode t with
      | error e => simp only [consentedIds, hcookie, hdecoder, hd, ht, ↓reduceIte]
      | ok d =>
        obtain ⟨m, rfl⟩ := hmodels decode hdecoder t d hd
        have hsome : (Consent.parse now g.decoder t).1.isSome = true :=
          Consent.parse_isSome_iff.mpr
            ⟨ht, decode, hdecoder, .model m, hd, fun _ => Decoded.yieldsIds_model⟩
        rw [h] at hsome
        cases hsome

theorem allows_consentFor (hmodels : g.DecodesModels) :
    (g.consentFor now s).1.allows f i = true ↔ i ∈ (g.consentedIds s).get f := by
  have hempty : (Consent.denied now).allows f i = true ↔ i ∈ ({} : TcfModel).get f := by
    rw [Consent.allows_denied]
    cases f <;> simp [TcfModel.get]
  rw [consentFor, Consent.ofSignals_eq]
  cases hcookie : s.cookie Consent.cookieName with
  | none =>
    have hnone : g.consentedIds s = {} := by simp only [consentedIds, hcookie]
    rw [hnone]
    exact hempty
  | some t =>
    rw [Option.bind_some]
    cases hc : (Consent.parse now g.decoder t).1 with
    | none =>
      rw [consentedIds_of_parse_eq_none hmodels hcookie hc]
      exact hempty
    | some c =>
      obtain ⟨ht, decode, hdecoder, d, hd, hresult⟩ := Consent.parse_eq_some_iff.mp hc
      obtain ⟨m, rfl⟩ := hmodels decode hdecoder t d hd
      rw [consentedIds_of_decoded hcookie ht hdecoder hd, Option.getD_some,
        Consent.allows_ofDecoded hresult, Decoded.exists_mem_elements_model]

theorem isAllowed_iff_grants (hallows : ∀ f i, c.allows f i = true ↔ i ∈ m.get f) :
    (g.isAllowed c qs l).1 = true ↔ g.Grants m l qs := by
  have hpurposes : ∀ p, c.allowsPurpose p = true ↔ p ∈ m.purposes := hallows .purposes
  have hvendors : ∀ v, c.allowsVendor v = true ↔ v ∈ m.vendors := hallows .vendors
  rw [isAllowed_iff, Grants]
  simp only [hpurposes, hvendors, VendorList.lists_and_declares_iff]

theorem advertisingLevel_eq_of_allows (hallows : ∀ f i, c.allows f i = true ↔ i ∈ m.get f) :
    (g.advertisingLevel c l).1 =
      if g.Grants m l [2, 3, 4] then .personalized
      else if g.Grants m l [2] then .basicOnly else .none := by
  rw [advertisingLevel_eq]
  exact AdvertisingLevel.graded_eq (isAllowed_iff_grants hallows) (isAllowed_iff_grants hallows)

/-- Each part of a decision says whether consent and vendor list grant its purposes, and a decision
is made at least where they do not grant those that are asked for. -/
theorem decision_iff_grants (hmodels : g.DecodesModels) (cache : Option Cache) (now : Moment)
    (s : Signals) (ps : List Int) (time : Moment) :
    (∀ d, (g.evaluate cache now s ps time).decision.result = .ok d →
      (d.allowed = true ↔ g.Grants (g.consentedIds s) (g.listInForce cache) ps) ∧
      (d.deviceAccess = true ↔ g.Grants (g.consentedIds s) (g.listInForce cache) [1]) ∧
      d.advertisingLevel =
        if g.Grants (g.consentedIds s) (g.listInForce cache) [2, 3, 4] then .personalized
        else if g.Grants (g.consentedIds s) (g.listInForce cache) [2] then .basicOnly
        else .none) ∧
    (¬g.Grants (g.consentedIds s) (g.listInForce cache) ps →
      ∃ d, (g.evaluate cache now s ps time).decision.result = .ok d) := by
  have hallows : ∀ f i, (g.consentFor now s).1.allows f i = true ↔ i ∈ (g.consentedIds s).get f :=
    fun f i => allows_consentFor hmodels
  rw [result_evaluate]
  constructor
  · intro d hd
    obtain ⟨hallowed, haccess, hlevel⟩ := verdict_of_judge hd
    rw [hallowed, haccess, hlevel]
    exact ⟨isAllowed_iff_grants hallows, isAllowed_iff_grants hallows,
      advertisingLevel_eq_of_allows hallows⟩
  · intro hgrants
    have hdenied : (g.verdict ps time (g.consentFor now s).1 (g.listInForce cache)).allowed = false :=
      Bool.eq_false_iff.mpr fun hallowed => hgrants ((isAllowed_iff_grants hallows).mp hallowed)
    exact ⟨_, congrArg Logged.result (judge_of_denied hdenied)⟩

/-- With consent to two of the purposes that are asked for and a list that has both, the request is
denied, but the device may be used and basic ads may be shown. -/
theorem decision_on_partial_consent :
    let model : TcfModel := ⟨[1, 2], [45]⟩
    let vendor : Vendor := { id := 45, name := "v", purposes := [1], legitimateInterests := [2] }
    let cache := Cache.create ⟨0, some .utc⟩ none Cache.weekly Cache.hourly
      (some { vendors := [(45, vendor)] }) none
    let g : Gate := ⟨⟨[], [], "", ""⟩, some fun _ => .ok (.model model), some 45, true⟩
    g.DecodesModels ∧ ¬g.Grants model cache.list [3, 1, 2] ∧
      ∃ d, (g.evaluate (some cache) ⟨0, some .utc⟩ { cookies := [("euconsent-v2", "t")] } [3, 1, 2]
          ⟨1, some .utc⟩).decision.result = .ok d ∧
        d.allowed = false ∧ d.deviceAccess = true ∧ d.advertisingLevel = .basicOnly := by
  intro model vendor cache g
  have hmodels : g.DecodesModels := by
    intro decode hdecode t d hd
    cases hdecode
    cases hd
    exact ⟨model, rfl⟩
  obtain ⟨hverdict, hdecision⟩ := decision_iff_grants hmodels (some cache) ⟨0, some .utc⟩
    { cookies := [("euconsent-v2", "t")] } [3, 1, 2] ⟨1, some .utc⟩
  have hdenies : ¬g.Grants model cache.list [3, 1, 2] := of_decide_eq_true rfl
  obtain ⟨d, hd⟩ := hdecision hdenies
  obtain ⟨hallowed, haccess, hlevel⟩ := hverdict d hd
  refine ⟨hmodels, hdenies, d, hd, ?_, haccess.mpr (of_decide_eq_true rfl), hlevel⟩
  exact Bool.eq_false_iff.mpr fun h => hdenies (hallowed.mp h)

end ConsentGate.Gate
