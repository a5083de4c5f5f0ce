import ConsentGate.Proofs.Gate.Evaluation

namespace ConsentGate

def Decision.refusal (ps : List Int) (vendorId version : Option Int) (time : Moment) : Decision where
  gdprApplies := false
  requestedPurposes := ps
  allowed := false
  deviceAccess := false
  advertisingLevel := .none
  syntheticId := placeholder
  vendorId := vendorId
  vendorListVersion := version
  evaluatedAt := time

namespace Gate

variable {g : Gate} {cache : Option Cache} {now time : Moment} {s : Signals} {ps : List Int}
  {l : Option VendorList}

/-- Why a request may come without any consent that can be read. -/
inductive Undecoded (g : Gate) (s : Signals) : Prop where
  | missing (h : s.cookie Consent.cookieName = none)
  | empty (h : s.cookie Consent.cookieName = some [])
  | withoutDecoder (h : g.decoder = none)
  | failed {t : Text} {decode : Decoder} {e : DecodeFailure}
      (hcookie : s.cookie Consent.cookieName = some t) (hdecoder : g.decoder = some decode)
      (h : decode t = .error e)

theorem consentFor_of_unparsed
    (h : ∀ t, s.cookie Consent.cookieName = some t → (Consent.parse now g.decoder t).1 = none) :
    (g.consentFor now s).1 = .denied now := by
  rw [consentFor, Consent.ofSignals_eq]
  cases hcookie : s.cookie Consent.cookieName with
  | none => rfl
  | some t => rw [Option.bind_some, h t hcookie, Option.getD_none]

theorem consentFor_of_undecoded (h : g.Undecoded s) : (g.consentFor now s).1 = .denied now := by
  refine consentFor_of_unparsed fun t ht => ?_
  rw [Option.eq_none_iff_forall_not_mem]
  intro c hc
  obtain ⟨hne, decode, hdecode, d, hd, _⟩ := Consent.parse_eq_some_iff.mp hc
  cases h with
  | missing h =>
    rw [h] at ht
    cases ht
  | empty h =>
    rw [h] at ht
    cases ht
    exact hne rfl
  | withoutDecoder h =>
    rw [h] at hdecode
    cases hdecode
  | failed hcookie hdecoder h =>
    rw [hcookie] at ht
    rw [hdecoder] at hdecode
    cases ht
    cases hdecode
    rw [h] at hd
    cases hd

/-- The one thing that is allowed without consent is to ask for nothing on behalf of nobody. -/
theorem isAllowed_denied_iff (g : Gate) (now : Moment) (ps : List Int) (l : Option VendorList) :
    (g.isAllowed (.denied now) ps l).1 = true ↔ g.vendorId = none ∧ ps = [] := by
  have hpurpose : ∀ p, (Consent.denied now).allowsPurpose p = false :=
    fun _ => Consent.allows_denied (f := .purposes)
  have hvendor : ∀ v, (Consent.denied now).allowsVendor v = false :=
    fun _ => Consent.allows_denied (f := .vendors)
  rw [isAllowed_iff]
  simp only [hpurpose, hvendor, Bool.false_eq_true, false_and, imp_false, Option.mem_def,
    ← Option.eq_none_iff_forall_ne_some, ← List.eq_nil_iff_forall_not_mem]
  exact and_comm

theorem isAllowed_denied_group (g : Gate) (now : Moment) (group : PurposeGroup)
    (l : Option VendorList) : (g.isAllowed (.denied now) group.ids l).1 = false := by
  have hids : group.ids ≠ [] := by cases group <;> exact List.cons_ne_nil _ _
  exact Bool.eq_false_iff.mpr fun h => hids ((isAllowed_denied_iff g now group.ids l).mp h).2

theorem verdict_denied :
    g.verdict ps time (.denied now) l =
      { Decision.refusal ps g.vendorId (l.map (·.version)) time with
        allowed := (g.isAllowed (.denied now) ps l).1 } := by
  rw [verdict, advertisingLevel_eq]
  simp only [isAllowed_denied_group]
  rfl

theorem result_judge_denied (h : g.vendorId ≠ none ∨ ps ≠ []) :
    (g.judge s ps time (.denied now) l).result =
      .ok (.refusal ps g.vendorId (l.map (·.version)) time) := by
  have hdenied : (g.isAllowed (.denied now) ps l).1 = false :=
    Bool.eq_false_iff.mpr fun hallowed =>
      not_and_or.mpr h ((isAllowed_denied_iff g now ps l).mp hallowed)
  have hverdict : (g.verdict ps time (.denied now) l).allowed = false := hdenied
  rw [judge_of_denied hverdict, verdict_denied, hdenied]
  rfl

/-- Without a consent that can be read everything is denied, unless nothing is asked for and there
is no vendor: then the request is allowed. -/
theorem refused_iff_of_undecoded (h : g.Undecoded s) (cache : Option Cache) (now : Moment)
    (ps : List Int) (time : Moment) :
    ((g.evaluate cache now s ps time).decision.result =
        .ok (.refusal ps g.vendorId ((g.listInForce cache).map (·.version)) time) ↔
      g.vendorId ≠ none ∨ ps ≠ []) ∧
    ∀ d, (g.evaluate cache now s ps time).decision.result = .ok d →
      (d.allowed = true ↔ g.vendorId = none ∧ ps = []) ∧ d.deviceAccess = false ∧
        d.advertisingLevel = .none := by
  rw [result_evaluate, consentFor_of_undecoded h]
  have hparts : ∀ d, (g.judge s ps time (.denied now) (g.listInForce cache)).result = .ok d →
      (d.allowed = true ↔ g.vendorId = none ∧ ps = []) ∧ d.deviceAccess = false ∧
        d.advertisingLevel = .none := by
    intro d hd
    obtain ⟨hallowed, haccess, hlevel⟩ := verdict_of_judge hd
    rw [hallowed, haccess, hlevel, verdict_denied]
    exact ⟨isAllowed_denied_iff g now ps (g.listInForce cache), rfl, rfl⟩
  refine ⟨?_, hparts⟩
  rw [← not_and_or]
  constructor
  · intro hrefused hnothing
    have hallowed := (hparts _ hrefused).1.mpr hnothing
    cases hallowed
  · intro hsomething
    have hdenied : (g.isAllowed (.denied now) ps (g.listInForce cache)).1 = false :=
      Bool.eq_false_iff.mpr fun h => hsomething ((isAllowed_denied_iff g now ps _).mp h)
    have hverdict : (g.verdict ps time (.denied now) (g.listInForce cache)).allowed = false := hdenied
    rw [judge_of_denied hverdict, verdict_denied, hdenied]
    rfl

/-- A cookie that the decoder refuses denies all that is asked for, even without a vendor. -/
theorem refused_after_failed_decoding :
    let g : Gate := ⟨⟨[], [], "", ""⟩, some fun _ => .error (.refused "no"), none, true⟩
    let s : Signals := { cookies := [("euconsent-v2", "t")] }
    g.Undecoded s ∧ (g.evaluate none ⟨0, some .utc⟩ s [1] ⟨0, some .utc⟩).decision.result =
      .ok (.refusal [1] none none ⟨0, some .utc⟩) := by
  intro g s
  have hundecoded : g.Undecoded s := .failed rfl rfl rfl
  obtain ⟨hrefused, _⟩ := refused_iff_of_undecoded hundecoded none ⟨0, some .utc⟩ [1] ⟨0, some .utc⟩
  exact ⟨hundecoded, hrefused.mpr (.inr (List.cons_ne_nil _ _))⟩

/-- A request without any consent that asks for nothing is allowed. -/
theorem allowed_without_consent :
    let g : Gate := ⟨⟨.ofString "key", .ofString "id", "", ""⟩, none, none, true⟩
    g.Undecoded {} ∧ ((g.evaluate none ⟨0, some .utc⟩ {} [] ⟨0, some .utc⟩).decision.result.toOption.map
      fun d => (d.allowed, d.provenance)) = some (true, some .generated) := by
  intro g
  exact ⟨.missing rfl, by decide +kernel +revert⟩

end Gate

end ConsentGate
