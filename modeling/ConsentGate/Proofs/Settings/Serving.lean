import ConsentGate.Proofs.Gate.Coherence
import ConsentGate.Proofs.Settings.Checks
import ConsentGate.Settings.Parts

namespace ConsentGate

theorem Gate.exists_decision_of_generates {g : Gate} {signals : Signals}
    (h : ∃ id, g.generated signals = .ok id) (cache : Option Cache) (now : Moment) (ps : List Int)
    (time : Moment) : ∃ d, (g.evaluate cache now signals ps time).decision.result = .ok d := by
  cases hallows : g.allows cache now signals ps with
  | false => exact ⟨_, result_of_not_allows hallows⟩
  | true =>
    obtain ⟨id, hid⟩ := h
    exact exists_result_of_allows hallows hid

namespace Settings

variable {s : Settings} {decoder : Option Decoder}

/-- The gate that goes by settings, which names header and cookie itself. -/
def gateOf (s : Settings) (decoder : Option Decoder) : Gate where
  resolver :=
    { secret := s.synthetic.secretKey
      template := s.synthetic.template
      headerName := Resolver.defaultHeader
      cookieName := Resolver.defaultCookie }
  decoder := decoder
  vendorId := s.consent.vendorId
  validates := s.consent.validateWithVendorList

theorem gate_of_checked (h : s.synthetic.Checked) : s.gate decoder = .ok (s.gateOf decoder) := by
  obtain ⟨t, ht, -⟩ := h.template_accepted
  rw [gate, resolver, Resolver.make_eq_ok_iff.mpr ⟨h.secret_ne_nil, ⟨t, ht⟩, rfl⟩]
  rfl

theorem generates_of_checked (h : s.synthetic.Checked) (hsecret : s.synthetic.secretKey.Whole)
    (htemplate : s.synthetic.template.Whole) {signals : Signals}
    (hsignals : (Attributes.ofSignals signals).Whole) :
    ∃ id, (s.gateOf decoder).generated signals = .ok id := by
  obtain ⟨t, ht, -⟩ := h.template_accepted
  exact Gate.exists_generated h.secret_ne_nil hsecret ht htemplate hsignals

/-- Settings that could be loaded make the gate that goes by them, and it comes to a decision on
every request, whatever the decoder does and the vendor list is. -/
theorem gate_decides_of_load {i : Inputs} (h : load i = .ok s)
    (hsecret : s.synthetic.secretKey.Whole) (htemplate : s.synthetic.template.Whole)
    (decoder : Option Decoder) :
    s.gate decoder = .ok (s.gateOf decoder) ∧
      ∀ (cache : Option Cache) (now : Moment) (signals : Signals) (ps : List Int) (time : Moment),
        (Attributes.ofSignals signals).Whole →
          ∃ d, ((s.gateOf decoder).evaluate cache now signals ps time).decision.result = .ok d := by
  have hchecked := checked_of_load h
  refine ⟨gate_of_checked hchecked, fun cache now signals ps time hsignals => ?_⟩
  exact Gate.exists_decision_of_generates
    (generates_of_checked hchecked hsecret htemplate hsignals) cache now ps time

theorem gate_decides_with_raw_language :
    let template := "\x7b\x7b\x7baccept_language\x7d\x7d\x7d"
    let s : Settings := { synthetic := ⟨"k", template⟩ }
    let i : Inputs :=
      { overrides :=
          [("synthetic", .object [("secret_key", .string "k"), ("template", .string template)])] }
    let failing : Decoder := fun _ => .error (.broken "RuntimeError" "down")
    let signals : Signals :=
      { headers := [("accept-language", "\x7b\x7b,en")], cookies := [("euconsent-v2", "t")] }
    load i = .ok s ∧ s.synthetic.secretKey.Whole ∧ s.synthetic.template.Whole ∧
      (Attributes.ofSignals signals).Whole ∧
      s.gate (some failing) = .ok (s.gateOf failing) ∧
        ∃ d, ((s.gateOf failing).evaluate none ⟨0, some .utc⟩ signals [] ⟨0, some .utc⟩
          ).decision.result = .ok d := by
  intro template s i failing signals
  have hload : load i = .ok s := by
    rw [← toOption_eq_some_iff]
    decide +kernel +revert
  have hsecret : s.synthetic.secretKey.Whole := Text.whole_ofChars _
  have htemplate : s.synthetic.template.Whole := Text.whole_ofChars _
  have hsignals : (Attributes.ofSignals signals).Whole := by decide
  obtain ⟨hgate, hdecides⟩ := gate_decides_of_load hload hsecret htemplate (some failing)
  exact ⟨hload, hsecret, htemplate, hsignals, hgate, hdecides none _ _ _ _ hsignals⟩

end Settings

end ConsentGate
