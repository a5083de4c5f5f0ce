import ConsentGate.Proofs.Identity.Generation
import ConsentGate.Proofs.Schema.Reading
import ConsentGate.Settings.Load

namespace ConsentGate

open Schema

/-- What is known of settings for the ids once they have been read. -/
structure SyntheticSettings.Checked (s : SyntheticSettings) : Prop where
  secret_ne_nil : s.secretKey ≠ []
  secret_ne_placeholder : s.secretKey ≠ .ofString Settings.placeholderSecret
  template_accepted : ∃ t, Template.parseWith Attribute.names s.template = .ok t ∧ t.names ≠ []

structure ConsentSettings.Checked (c : ConsentSettings) : Prop where
  vendorId_pos : ∀ v ∈ c.vendorId, 0 < v
  one_le_refreshDays : 1 ≤ c.refreshDays
  one_le_retryMinutes : 1 ≤ c.retryMinutes

namespace Settings

variable {j : Json} {t : Text} {f : Json.Fields} {synthetic : SyntheticSettings}
  {consent : ConsentSettings} {s : Settings}

theorem readSecret_eq_value_iff :
    readSecret j = .value t ↔ readText j = .value t ∧ t ≠ [] ∧ t ≠ .ofString placeholderSecret := by
  rw [readSecret, Reading.andThen_eq_value_iff]
  constructor
  · rintro ⟨u, hu, hchecked⟩
    split at hchecked
    · cases hchecked
    · next hne =>
      split at hchecked
      · cases hchecked
      · next hplaceholder =>
        cases hchecked
        exact ⟨hu, by simpa using hne, hplaceholder⟩
  · rintro ⟨ht, hne, hplaceholder⟩
    exact ⟨t, ht, by simp [hne, hplaceholder]⟩

theorem readTemplate_eq_value_iff :
    readTemplate j = .value t ↔
      readText j = .value t ∧
        ∃ parts, Template.parseWith Attribute.names t = .ok parts ∧ parts.names ≠ [] := by
  rw [readTemplate, Reading.andThen_eq_value_iff]
  constructor
  · rintro ⟨u, hu, hchecked⟩
    split at hchecked
    · cases hchecked
    · next parts hparts =>
      split at hchecked
      · cases hchecked
      · next hnames =>
        cases hchecked
        exact ⟨hu, parts, hparts, by simpa using hnames⟩
  · rintro ⟨ht, parts, hparts, hnames⟩
    exact ⟨t, ht, by simp [hparts, hnames]⟩

/-- The template that is taken where none is given has not been through the check. -/
theorem defaultTemplate_accepted :
    ∃ t, Template.parseWith Attribute.names Resolver.defaultTemplate = .ok t ∧ t.names ≠ [] := by
  refine ⟨Resolver.defaultParts, Resolver.parseWith_defaultTemplate, ?_⟩
  decide

theorem readSynthetic_eq_value_iff :
    readSynthetic f = .value synthetic ↔
      field f "secret_key" readSecret none = .value synthetic.secretKey ∧
        field f "template" readTemplate (some Resolver.defaultTemplate) =
          .value synthetic.template := by
  simp only [readSynthetic, Reading.apply_eq_value_iff, Reading.fmap_eq_value_iff]
  constructor
  · rintro ⟨_, template, ⟨secret, hsecret, rfl⟩, htemplate, rfl⟩
    exact ⟨hsecret, htemplate⟩
  · rintro ⟨hsecret, htemplate⟩
    exact ⟨_, _, ⟨_, hsecret, rfl⟩, htemplate, rfl⟩

theorem readConsent_eq_value_iff :
    readConsent f = .value consent ↔
      field f "vendor_id" (optional (readIntAbove 0)) (some none) = .value consent.vendorId ∧
        field f "validate_with_vendor_list" readBool (some true) =
          .value consent.validateWithVendorList ∧
        field f "vendor_list_refresh_days" (readIntFrom 1) (some 7) = .value consent.refreshDays ∧
        field f "vendor_list_retry_minutes" (readIntFrom 1) (some 60) =
          .value consent.retryMinutes := by
  simp only [readConsent, Reading.apply_eq_value_iff, Reading.fmap_eq_value_iff]
  constructor
  · rintro ⟨_, _, ⟨_, _, ⟨_, _, ⟨_, hvendor, rfl⟩, hvalidates, rfl⟩, hrefresh, rfl⟩, hretry, rfl⟩
    exact ⟨hvendor, hvalidates, hrefresh, hretry⟩
  · rintro ⟨hvendor, hvalidates, hrefresh, hretry⟩
    exact ⟨_, _, ⟨_, _, ⟨_, _, ⟨_, hvendor, rfl⟩, hvalidates, rfl⟩, hrefresh, rfl⟩, hretry, rfl⟩

theorem readFields_eq_value_iff :
    readFields f = .value s ↔
      field f "app_env" (readWord .notLiteral AppEnvironment.words) (some .development) =
          .value s.appEnv ∧
        field f "log_level" (readWord .notLiteral Severity.words) (some .info) = .value s.logLevel ∧
        field f "log_json" readBool (some false) = .value s.logJson ∧
        field f "publisher" (record "PublisherSettings" readPublisher) (some {}) =
          .value s.publisher ∧
        field f "synthetic" (record "SyntheticSettings" readSynthetic) none = .value s.synthetic ∧
        field f "consent" (record "ConsentSettings" readConsent) (some {}) = .value s.consent := by
  simp only [readFields, Reading.apply_eq_value_iff, Reading.fmap_eq_value_iff]
  constructor
  · rintro ⟨_, _, ⟨_, _, ⟨_, _, ⟨_, _, ⟨_, _, ⟨_, henv, rfl⟩, hlevel, rfl⟩, hjson, rfl⟩, hpublisher,
      rfl⟩, hsynthetic, rfl⟩, hconsent, rfl⟩
    exact ⟨henv, hlevel, hjson, hpublisher, hsynthetic, hconsent⟩
  · rintro ⟨henv, hlevel, hjson, hpublisher, hsynthetic, hconsent⟩
    exact ⟨_, _, ⟨_, _, ⟨_, _, ⟨_, _, ⟨_, _, ⟨_, henv, rfl⟩, hlevel, rfl⟩, hjson, rfl⟩, hpublisher,
      rfl⟩, hsynthetic, rfl⟩, hconsent, rfl⟩

theorem checked_of_readSynthetic (h : readSynthetic f = .value synthetic) : synthetic.Checked := by
  obtain ⟨hsecret, htemplate⟩ := readSynthetic_eq_value_iff.mp h
  have hkey : synthetic.secretKey ≠ [] ∧ synthetic.secretKey ≠ .ofString placeholderSecret := by
    obtain ⟨j, -, hj⟩ | ⟨-, hnone⟩ := field_eq_value_iff.mp hsecret
    · exact (readSecret_eq_value_iff.mp hj).2
    · cases hnone
  refine ⟨hkey.1, hkey.2, ?_⟩
  obtain ⟨j, -, hj⟩ | ⟨-, hdefault⟩ := field_eq_value_iff.mp htemplate
  · exact (readTemplate_eq_value_iff.mp hj).2
  · rw [← Option.some.inj hdefault]
    exact defaultTemplate_accepted

theorem checked_of_readFields (h : readFields f = .value s) : s.synthetic.Checked := by
  obtain ⟨-, -, -, -, hsynthetic, -⟩ := readFields_eq_value_iff.mp h
  obtain ⟨j, -, hj⟩ | ⟨-, hnone⟩ := field_eq_value_iff.mp hsynthetic
  · obtain ⟨fields, -, hfields⟩ := record_eq_value_iff.mp hj
    exact checked_of_readSynthetic hfields
  · cases hnone

theorem checked_of_readConsent (h : readConsent f = .value consent) : consent.Checked := by
  obtain ⟨hvendor, -, hrefresh, hretry⟩ := readConsent_eq_value_iff.mp h
  refine ⟨?_, ?_, ?_⟩
  · refine holds_of_field (P := fun o => ∀ v ∈ o, 0 < v) hvendor ?_ (by simp)
    rintro j o hj v rfl
    exact (readIntAbove_eq_value_iff.mp (read_of_optional hj)).2
  · exact holds_of_field hrefresh (fun j n hj => (readIntFrom_eq_value_iff.mp hj).2) (by simp)
  · exact holds_of_field hretry (fun j n hj => (readIntFrom_eq_value_iff.mp hj).2) (by simp)

theorem consent_checked_of_readFields (h : readFields f = .value s) : s.consent.Checked := by
  obtain ⟨-, -, -, -, -, hconsent⟩ := readFields_eq_value_iff.mp h
  refine holds_of_field hconsent ?_ ?_
  · intro j c hj
    obtain ⟨fields, -, hfields⟩ := record_eq_value_iff.mp hj
    exact checked_of_readConsent hfields
  · intro c hc
    obtain rfl : {} = c := Option.some.inj hc
    exact ⟨nofun, by decide, by decide⟩

theorem ofFields_eq_ok_iff : ofFields f = .ok s ↔ readFields f = .value s := by
  unfold ofFields
  cases readFields f with
  | value t => simp
  | issues found =>
    dsimp only
    split <;> simp

theorem load_of_merged {i : Inputs} (h : i.merged = .ok f) : load i = ofFields f := by rw [load, h]

theorem load_eq_ok_iff {i : Inputs} :
    load i = .ok s ↔ ∃ f, i.merged = .ok f ∧ readFields f = .value s := by
  cases h : i.merged with
  | error e => simp [load, h]
  | ok f => simp [load_of_merged h, ofFields_eq_ok_iff]

theorem checked_of_load {i : Inputs} (h : load i = .ok s) : s.synthetic.Checked := by
  obtain ⟨f, -, hf⟩ := load_eq_ok_iff.mp h
  exact checked_of_readFields hf

theorem consent_checked_of_load {i : Inputs} (h : load i = .ok s) : s.consent.Checked := by
  obtain ⟨f, -, hf⟩ := load_eq_ok_iff.mp h
  exact consent_checked_of_readFields hf

end Settings

end ConsentGate
