import ConsentGate.Proofs.Consent.Decoding

namespace ConsentGate.Consent

open Schema Decoded

variable {now : Moment} {decoder : Option Decoder} {t : Text} {d : Decoded} {c : Consent}
  {f : TcfModel.Field} {i : Int}

def allows (c : Consent) : TcfModel.Field → Int → Bool
  | .purposes, i => c.allowsPurpose i
  | .vendors, i => c.allowsVendor i

theorem ofDecoded_eq_ok_iff :
    (ofDecoded now t d).result = .ok c ↔
      ∃ purposes vendors ps vs, d.ids = .ok (purposes, vendors) ∧
        granting purposes = .value ps ∧ granting vendors = .value vs ∧
        c = { tcString := t, gdprApplies := t ≠ [], purposes := ps, vendors := vs
              timestamp := now } := by
  unfold ofDecoded
  simp only [Logged.result_bind, Logged.result_ofExcept]
  cases hids : d.ids with
  | error e => simp [Except.bind]
  | ok keys =>
    obtain ⟨purposes, vendors⟩ := keys
    simp only [Except.bind, Logged.result_log, Except.ok.injEq, Prod.mk.injEq]
    cases hps : granting purposes <;> cases hvs : granting vendors <;>
      simp [hps, hvs, eq_comm]

theorem exists_ofDecoded_iff :
    (∃ c, (ofDecoded now t d).result = .ok c) ↔ ∀ f, YieldsIds (d.attribute? f) := by
  simp only [ofDecoded_eq_ok_iff, ids_eq_ok_iff, ← exists_idsOf_iff]
  constructor
  · rintro ⟨_, purposes, vendors, ps, vs, ⟨hp, hv⟩, hps, hvs, _⟩ f
    cases f with
    | purposes => exact ⟨purposes, hp, exists_granting_iff.mp ⟨ps, hps⟩⟩
    | vendors => exact ⟨vendors, hv, exists_granting_iff.mp ⟨vs, hvs⟩⟩
  · intro h
    obtain ⟨purposes, hp, hpread⟩ := h .purposes
    obtain ⟨vendors, hv, hvread⟩ := h .vendors
    obtain ⟨ps, hps⟩ := exists_granting_iff.mpr hpread
    obtain ⟨vs, hvs⟩ := exists_granting_iff.mpr hvread
    exact ⟨_, purposes, vendors, ps, vs, ⟨hp, hv⟩, hps, hvs, rfl⟩

theorem lookup_granting_elements {keys : List Json} {m : OrderedMap Int Bool}
    (hkeys : d.idsOf f = .ok keys) (hm : granting keys = .value m) :
    m.lookup i = some true ↔ ∃ j ∈ d.elements f, readInt j = .value i := by
  rw [lookup_granting hm]
  exact (represents_idsOf hkeys).exists_readInt_iff (exists_granting_iff.mp ⟨m, hm⟩)

theorem allows_ofDecoded (h : (ofDecoded now t d).result = .ok c) :
    c.allows f i = true ↔ ∃ j ∈ d.elements f, readInt j = .value i := by
  obtain ⟨purposes, vendors, ps, vs, hids, hps, hvs, rfl⟩ := ofDecoded_eq_ok_iff.mp h
  obtain ⟨hp, hv⟩ := ids_eq_ok_iff.mp hids
  cases f with
  | purposes => simpa [allows, allowsPurpose] using lookup_granting_elements hp hps
  | vendors => simpa [allows, allowsVendor] using lookup_granting_elements hv hvs

theorem ofAnswer_eq_some_iff {r : Except DecodeFailure Decoded} :
    (ofAnswer now t r).1 = some c ↔ ∃ d, r = .ok d ∧ (ofDecoded now t d).result = .ok c := by
  cases r with
  | error e => simp [ofAnswer]
  | ok d => cases hd : (ofDecoded now t d).result <;> simp [ofAnswer, hd]

theorem parse_eq_some_iff :
    (parse now decoder t).1 = some c ↔
      t ≠ [] ∧ ∃ decode ∈ decoder, ∃ d, decode t = .ok d ∧ (ofDecoded now t d).result = .ok c := by
  by_cases ht : t = []
  · simp [ht]
  · cases decoder with
    | none => simp [parse_without_decoder ht]
    | some decode => simp [parse_with_decoder ht, ofAnswer_eq_some_iff, ht]

theorem parse_isSome_iff :
    (parse now decoder t).1.isSome = true ↔
      t ≠ [] ∧ ∃ decode ∈ decoder, ∃ d, decode t = .ok d ∧ ∀ f, YieldsIds (d.attribute? f) := by
  simp only [Option.isSome_iff_exists, parse_eq_some_iff]
  constructor
  · rintro ⟨c, ht, decode, hdecode, d, hd, hc⟩
    exact ⟨ht, decode, hdecode, d, hd, exists_ofDecoded_iff.mp ⟨c, hc⟩⟩
  · rintro ⟨ht, decode, hdecode, d, hd, hyields⟩
    obtain ⟨c, hc⟩ := exists_ofDecoded_iff.mpr hyields
    exact ⟨c, ht, decode, hdecode, d, hd, hc⟩

theorem run_parseIn_recorded (asked : List Text) :
    (parseIn now (decoder.map Decoder.recorded) t).run asked =
      (parse now decoder t, asked ++ questions decoder t) := by
  by_cases ht : t = []
  · subst ht
    cases decoder <;> simp [parseIn, questions] <;> rfl
  · cases decoder with
    | none => simp [parseIn, questions, ht, parse_without_decoder ht]; rfl
    | some decode =>
      simp [parseIn, questions, ht, parse_with_decoder ht, Decoder.recorded]; rfl

theorem ofSignals_eq (s : Signals) :
    (ofSignals now decoder s).1 =
      ((s.cookie cookieName).bind fun t => (parse now decoder t).1).getD (denied now) := by
  unfold ofSignals
  cases s.cookie cookieName <;> rfl

theorem length_questions_le (decoder : Option Decoder) (t : Text) :
    (questions decoder t).length ≤ 1 := by
  cases decoder with
  | none => simp [questions]
  | some decode =>
    simp only [questions]
    split <;> simp

theorem ne_empty_of_mem_questions {q : Text} (h : q ∈ questions decoder t) : q ≠ [] := by
  cases decoder with
  | none => cases h
  | some decode =>
    simp only [questions] at h
    split at h
    · cases h
    · next ht =>
      obtain rfl := List.mem_singleton.mp h
      exact ht

/-- A decoder is asked once at most and never about the empty string. There is a consent exactly if
each attribute of its answer is a list of integers or passes for one, and then just those ids are
consented to; all else is denied. -/
theorem consent_of_decoder_answer (now : Moment) (decoder : Option Decoder) (t : Text) :
    (∀ asked, (parseIn now (decoder.map Decoder.recorded) t).run asked =
      (parse now decoder t, asked ++ questions decoder t)) ∧
    (questions decoder t).length ≤ 1 ∧ (∀ q ∈ questions decoder t, q ≠ []) ∧
    ((parse now decoder t).1.isSome = true ↔
      t ≠ [] ∧ ∃ decode ∈ decoder, ∃ d, decode t = .ok d ∧
        ∀ f, IsIdList (d.attribute? f) ∨ PassesForIds (d.attribute? f)) ∧
    (∀ c ∈ (parse now decoder t).1, ∀ decode ∈ decoder, ∀ d, decode t = .ok d →
      ∀ f i, c.allows f i = true ↔ ∃ j ∈ d.elements f, readInt j = .value i) ∧
    ((parse now decoder t).1 = none →
      ∀ s : Signals, s.cookie cookieName = some t → (ofSignals now decoder s).1 = denied now) := by
  refine ⟨run_parseIn_recorded, length_questions_le decoder t,
    fun q hq => ne_empty_of_mem_questions hq, parse_isSome_iff, ?_, ?_⟩
  · intro c hc decode hdecode d hd f i
    obtain ⟨_, decode', hdecode', d', hd', hresult⟩ := parse_eq_some_iff.mp hc
    obtain rfl : decode = decode' := Option.some.inj (hdecode.symm.trans hdecode')
    obtain rfl : d = d' := Except.ok.inj (hd.symm.trans hd')
    exact allows_ofDecoded hresult
  · intro hnone s hs
    rw [ofSignals_eq, hs, Option.bind_some, hnone, Option.getD_none]

/-- An object that denies a purpose consents to it, for its names are what counts. -/
theorem denying_object_consents :
    let answer : Decoded := .loose
      [("purposes_consent", .object [("1", .bool false)]), ("vendors_consent", .array [])]
    (parse ⟨0, some .utc⟩ (some fun _ => .ok answer) "t").1.map (·.allowsPurpose 1) = some true := by
  decide +kernel

end ConsentGate.Consent
