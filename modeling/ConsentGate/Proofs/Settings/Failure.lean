import ConsentGate.Proofs.Log.Redaction
import ConsentGate.Proofs.Settings.Complaints

namespace ConsentGate

open Schema

theorem Schema.fault?_readText (j : Json) (test : Text → Option Fault) :
    (readText j).fault? test = j.text?.elim (some .notString) test := by
  cases j <;> rfl

namespace Settings

variable {f g : Json.Fields} {p : Place} {fault : Fault} {i : Inputs} {s : Settings} {t : Text}

/-- The secret that counts once all sources are merged. -/
def secretOf (f : Json.Fields) : Option Text :=
  match f.lookup ("synthetic" : Text) with
  | some (.object inner) => (inner.lookup ("secret_key" : Text)).bind Json.text?
  | _ => none

/-- One line for each place at which something is wrong, in the order of the places. -/
def complaints (f : Json.Fields) : List String :=
  Place.all.filterMap fun p =>
    (p.faultAt f).map fun fault => ".".intercalate p.names ++ ": " ++ fault.message

theorem secretFault_placeholder :
    secretFault (.ofString placeholderSecret) = some (.rejected insecureSecret) := by
  have hne : Text.ofString placeholderSecret ≠ [] := by decide
  rw [secretFault, if_neg hne, if_pos rfl]

theorem secretOf_eq_some_iff :
    secretOf f = some t ↔ ∃ inner j, f.lookup ("synthetic" : Text) = some (.object inner) ∧
      inner.lookup ("secret_key" : Text) = some j ∧ j.text? = some t := by
  unfold secretOf
  split
  · next inner h => simp [h, Option.bind_eq_some_iff]
  · next h =>
    refine iff_of_false nofun ?_
    rintro ⟨inner, j, hinner, -⟩
    exact h inner hinner

theorem faultAt_secretKey_of_secretOf (h : secretOf f = some t) :
    Place.secretKey.faultAt f = secretFault t := by
  obtain ⟨inner, j, hinner, hj, ht⟩ := secretOf_eq_some_iff.mp h
  have hin : Place.secretKey.faultIn inner = (readText j).fault? secretFault := by
    simp only [Place.faultIn, Place.name, hj]
    rfl
  simp only [Place.faultAt, Place.section?, Place.name, hinner, hin, fault?_readText, ht,
    Option.elim_some]

theorem faultAt_secretKey_of_no_secret (h : secretOf f = none)
    (hfault : Place.secretKey.faultAt f = some fault) : fault = .missing ∨ fault = .notString := by
  simp only [Place.faultAt, Place.section?, Place.name] at hfault
  unfold secretOf at h
  split at hfault
  · next inner hinner =>
    rw [hinner] at h
    cases hj : inner.lookup ("secret_key" : Text) with
    | none =>
      simp only [Place.faultIn, Place.name, hj, Place.isRequired, ↓reduceIte,
        Option.some.injEq] at hfault
      exact .inl hfault.symm
    | some j =>
      have htext : j.text? = none := by simpa [hj] using h
      simp only [Place.faultIn, Place.name, hj, Place.fault, fault?_readText, htext,
        Option.elim_none, Option.some.injEq] at hfault
      exact .inr hfault.symm
  · cases hfault

theorem getLast?_path (p : Place) : p.path.getLast? = some (.field p.name) := by
  rw [Place.path, Place.names, List.map_append, List.map_singleton, List.getLast?_concat]

theorem name_eq_secret_key_iff : p.name = "secret_key" ↔ p = .secretKey := by
  cases p <;> decide

theorem isInsecure_at_iff :
    isInsecure ⟨fault, p.path⟩ = true ↔
      p = .secretKey ∧ "insecure".toList <:+: fault.message.toList := by
  rw [isInsecure, getLast?_path, Bool.and_eq_true, Redaction.holds_iff, beq_iff_eq,
    name_eq_secret_key_iff]

/-- Of all that can be said of a secret, the word is in nothing but the refusal of the known one. -/
theorem insecure_message_iff (h : Place.secretKey.faultAt f = some fault) :
    "insecure".toList <:+: fault.message.toList ↔
      secretOf f = some (.ofString placeholderSecret) := by
  rw [← Redaction.holds_iff]
  cases hsecret : secretOf f with
  | none =>
    refine iff_of_false ?_ nofun
    obtain rfl | rfl := faultAt_secretKey_of_no_secret hsecret h
    · decide
    · decide
  | some t =>
    rw [faultAt_secretKey_of_secretOf hsecret] at h
    rw [Option.some.injEq]
    unfold secretFault at h
    split at h
    · next hempty =>
      cases h
      subst hempty
      decide
    · split at h
      · next hplaceholder =>
        cases h
        exact iff_of_true (by decide) hplaceholder
      · cases h

theorem any_isInsecure_iff :
    (issuesAt f Place.all).any isInsecure = true ↔
      secretOf f = some (.ofString placeholderSecret) := by
  rw [List.any_eq_true]
  constructor
  · rintro ⟨issue, hissue, hinsecure⟩
    obtain ⟨p, -, hp⟩ := List.mem_filterMap.mp hissue
    obtain ⟨fault, hfault, rfl⟩ := Option.map_eq_some_iff.mp hp
    obtain ⟨rfl, hword⟩ := isInsecure_at_iff.mp hinsecure
    exact (insecure_message_iff hfault).mp hword
  · intro hsecret
    have hfault : Place.secretKey.faultAt f = some (.rejected insecureSecret) :=
      (faultAt_secretKey_of_secretOf hsecret).trans secretFault_placeholder
    refine ⟨⟨.rejected insecureSecret, Place.secretKey.path⟩, ?_, ?_⟩
    · exact List.mem_filterMap.mpr ⟨.secretKey, Place.mem_all _, by rw [hfault]; rfl⟩
    · exact isInsecure_at_iff.mpr ⟨rfl, (insecure_message_iff hfault).mpr hsecret⟩

theorem issuesAt_all_eq_nil_iff : issuesAt f Place.all = [] ↔ ∀ p : Place, p.faultAt f = none := by
  rw [issuesAt, List.filterMap_eq_nil_iff]
  simp only [Option.map_eq_none_iff]
  exact ⟨fun h p => h p (Place.mem_all p), fun h p _ => h p⟩

theorem exists_ofFields_iff :
    (∃ s, ofFields f = .ok s) ↔ ∀ p : Place, p.faultAt f = none := by
  simp only [ofFields_eq_ok_iff, (finds_readFields f).exists_value_iff, issuesAt_all_eq_nil_iff]

theorem readFields_of_fault (h : p.faultAt f ≠ none) :
    readFields f = .issues (issuesAt f Place.all) :=
  (finds_readFields f).eq_issues fun hnil => h (issuesAt_all_eq_nil_iff.mp hnil p)

theorem ofFields_of_placeholder (h : secretOf f = some (.ofString placeholderSecret)) :
    ofFields f = .error .insecureSecret := by
  have hfault := (faultAt_secretKey_of_secretOf h).trans secretFault_placeholder
  rw [ofFields, readFields_of_fault (hfault ▸ Option.some_ne_none _)]
  exact if_pos (any_isInsecure_iff.mpr h)

theorem ofFields_of_fault (h : p.faultAt f ≠ none)
    (hsecret : secretOf f ≠ some (.ofString placeholderSecret)) :
    ofFields f = .error (.invalid (issuesAt f Place.all)) := by
  rw [ofFields, readFields_of_fault h]
  exact if_neg fun hany => hsecret (any_isInsecure_iff.mp hany)

theorem place_issue (fault : Fault) (p : Place) :
    Issue.place ⟨fault, p.path⟩ = ".".intercalate p.names := by
  rw [Issue.place, Place.path, List.map_map]
  exact congrArg _ (List.map_id p.names)

theorem map_issuesAt (f : Json.Fields) (ps : List Place) :
    (issuesAt f ps).map (fun i => i.place ++ ": " ++ i.fault.message) =
      ps.filterMap fun p =>
        (p.faultAt f).map fun fault => ".".intercalate p.names ++ ": " ++ fault.message := by
  rw [issuesAt, List.map_filterMap]
  simp only [Option.map_map, Function.comp_def, place_issue]

theorem message_invalid (f : Json.Fields) :
    (SettingsError.invalid (issuesAt f Place.all)).message =
      "Invalid settings: " ++ "; ".intercalate (complaints f) :=
  congrArg (fun lines => "Invalid settings: " ++ "; ".intercalate lines) (map_issuesAt f Place.all)

structure Sound (s : Settings) : Prop where
  secret_ne_nil : s.synthetic.secretKey ≠ []
  secret_ne_placeholder : s.synthetic.secretKey ≠ .ofString placeholderSecret
  template_accepted : ∃ t, Template.parseWith Attribute.names s.synthetic.template = .ok t ∧
    t.names ≠ [] ∧ ∀ name ∈ t.names, name ∈ Attribute.names
  vendorId_pos : ∀ v ∈ s.consent.vendorId, 0 < v
  one_le_refreshDays : 1 ≤ s.consent.refreshDays
  one_le_retryMinutes : 1 ≤ s.consent.retryMinutes

theorem sound_of_load (h : load i = .ok s) : s.Sound := by
  have hsynthetic := checked_of_load h
  have hconsent := consent_checked_of_load h
  obtain ⟨t, ht, hnames⟩ := hsynthetic.template_accepted
  exact
    { secret_ne_nil := hsynthetic.secret_ne_nil
      secret_ne_placeholder := hsynthetic.secret_ne_placeholder
      template_accepted := ⟨t, ht, hnames, (Template.parseWith_eq_ok_iff.mp ht).2⟩
      vendorId_pos := hconsent.vendorId_pos
      one_le_refreshDays := hconsent.one_le_refreshDays
      one_le_retryMinutes := hconsent.one_le_retryMinutes }

theorem secretOf_of_readFields (h : readFields f = .value s) :
    secretOf f = some s.synthetic.secretKey := by
  obtain ⟨-, -, -, -, hsynthetic, -⟩ := readFields_eq_value_iff.mp h
  obtain ⟨j, hj, hread⟩ | ⟨-, hnone⟩ := field_eq_value_iff.mp hsynthetic
  · obtain ⟨inner, rfl, hinner⟩ := record_eq_value_iff.mp hread
    obtain ⟨hsecret, -⟩ := readSynthetic_eq_value_iff.mp hinner
    obtain ⟨j, hj', hread'⟩ | ⟨-, hnone⟩ := field_eq_value_iff.mp hsecret
    · have htext := readText_eq_value_iff.mp (readSecret_eq_value_iff.mp hread').1
      exact secretOf_eq_some_iff.mpr ⟨inner, j, hj, hj', htext⟩
    · cases hnone
  · cases hnone

structure SameButSecret (f g : Json.Fields) : Prop where
  outside : ∀ name : String, name ≠ "synthetic" → f.lookup (name : Text) = g.lookup (name : Text)
  inside : ∃ a b, f.lookup ("synthetic" : Text) = some (.object a) ∧
    g.lookup ("synthetic" : Text) = some (.object b) ∧
      ∀ name : String, name ≠ "secret_key" → a.lookup (name : Text) = b.lookup (name : Text)

def UsableSecret (t : Text) : Prop := t ≠ [] ∧ t ≠ .ofString placeholderSecret

theorem field_congr {α : Type} {name : String}
    (h : f.lookup (name : Text) = g.lookup (name : Text)) (read : Json → Reading α)
    (default : Option α) :
    field f name read default = field g name read default := by
  unfold field
  rw [h]

theorem secretFault_of_usable (h : UsableSecret t) : secretFault t = none := by
  rw [secretFault, if_neg h.1, if_neg h.2]

theorem issuesAt_congr (h : ∀ p : Place, p.faultAt f = p.faultAt g) (ps : List Place) :
    issuesAt f ps = issuesAt g ps := by
  unfold issuesAt
  simp only [h]

theorem readSecret_of_text? {j : Json} (hj : j.text? = some t) (ht : UsableSecret t) :
    readSecret j = .value t :=
  readSecret_eq_value_iff.mpr ⟨readText_eq_value_iff.mpr hj, ht.1, ht.2⟩

namespace SameButSecret

variable {a b : Text}

theorem faultAt_eq_of_ne (h : SameButSecret f g) (hp : p ≠ .secretKey) :
    p.faultAt f = p.faultAt g := by
  obtain ⟨l, l', hf, hg, hinside⟩ := h.inside
  cases p with
  | secretKey => exact absurd rfl hp
  | synthetic =>
    simp only [Place.faultAt, Place.section?, Place.faultIn, Place.name, hf, hg]
    rfl
  | template =>
    simp only [Place.faultAt, Place.section?, Place.faultIn, Place.name, hf, hg,
      hinside "template" (by decide)]
  | _ =>
    simp (disch := decide) only [Place.faultAt, Place.section?, Place.faultIn, Place.name,
      h.outside]

theorem faultAt_eq (h : SameButSecret f g) (ha : secretOf f = some a) (hb : secretOf g = some b)
    (hua : UsableSecret a) (hub : UsableSecret b) (p : Place) : p.faultAt f = p.faultAt g := by
  by_cases hp : p = .secretKey
  · rw [hp, faultAt_secretKey_of_secretOf ha, faultAt_secretKey_of_secretOf hb,
      secretFault_of_usable hua, secretFault_of_usable hub]
  · exact h.faultAt_eq_of_ne hp

theorem readFields_eq (h : SameButSecret f g) (hb : secretOf g = some b) (hub : UsableSecret b)
    (hs : readFields f = .value s) :
    readFields g = .value { s with synthetic.secretKey := b } := by
  obtain ⟨l, l', hf, hg, hinside⟩ := h.inside
  obtain ⟨hl', j, hg', hj, htext⟩ := secretOf_eq_some_iff.mp hb
  obtain rfl : l' = hl' := Json.object.inj (Option.some.inj (hg.symm.trans hg'))
  obtain ⟨henv, hlevel, hjson, hpublisher, hsynthetic, hconsent⟩ := readFields_eq_value_iff.mp hs
  rw [field_of_given hf, Reading.under_eq_value_iff] at hsynthetic
  obtain ⟨-, htemplate⟩ := readSynthetic_eq_value_iff.mp hsynthetic
  have hread : readSynthetic l' = .value { s.synthetic with secretKey := b } := by
    refine readSynthetic_eq_value_iff.mpr ⟨?_, ?_⟩
    · rw [field_of_given hj, Reading.under_eq_value_iff]
      exact readSecret_of_text? htext hub
    · rwa [← field_congr (hinside "template" (by decide))]
  rw [field_congr (h.outside _ (by decide))] at henv hlevel hjson hpublisher hconsent
  refine readFields_eq_value_iff.mpr ⟨henv, hlevel, hjson, hpublisher, ?_, hconsent⟩
  rw [field_of_given hg, Reading.under_eq_value_iff]
  exact hread

theorem load_eq {i i' : Inputs} (h : SameButSecret f g) (hi : i.merged = .ok f)
    (hi' : i'.merged = .ok g) (ha : secretOf f = some a) (hb : secretOf g = some b)
    (hua : UsableSecret a) (hub : UsableSecret b) :
    (∃ s, load i = .ok s ∧ load i' = .ok { s with synthetic.secretKey := b }) ∨
      ∃ e, load i = .error e ∧ load i' = .error e := by
  -- Either nothing is wrong in both, or the same is at the same places.
  have hfaults := h.faultAt_eq ha hb hua hub
  rw [load_of_merged hi, load_of_merged hi']
  by_cases hnone : ∀ p : Place, p.faultAt f = none
  · left
    obtain ⟨s, hs⟩ := exists_ofFields_iff.mpr hnone
    refine ⟨s, hs, ?_⟩
    exact ofFields_eq_ok_iff.mpr (h.readFields_eq hb hub (ofFields_eq_ok_iff.mp hs))
  · right
    obtain ⟨p, hp⟩ := not_forall.mp hnone
    have hp' : p.faultAt g ≠ none := hfaults p ▸ hp
    have hsecret : secretOf f ≠ some (.ofString placeholderSecret) :=
      ha ▸ fun heq => hua.2 (Option.some.inj heq)
    have hsecret' : secretOf g ≠ some (.ofString placeholderSecret) :=
      hb ▸ fun heq => hub.2 (Option.some.inj heq)
    refine ⟨_, ofFields_of_fault hp hsecret, ?_⟩
    rw [ofFields_of_fault hp' hsecret', issuesAt_congr hfaults]

end SameButSecret

theorem kind_eq_insecure_iff {e : SettingsError} :
    e.kind = "InsecureSecretKeyError" ↔ e = .insecureSecret := by
  cases e with
  | insecureSecret => exact iff_of_true rfl rfl
  | invalid found => simp [SettingsError.kind]
  | ofSection e => cases e <;> simp [SettingsError.kind]

theorem load_eq_insecureSecret_iff (h : i.merged = .ok f) :
    load i = .error .insecureSecret ↔ secretOf f = some (.ofString placeholderSecret) := by
  rw [load_of_merged h]
  refine ⟨fun hload => ?_, ofFields_of_placeholder⟩
  by_contra hsecret
  by_cases hnone : ∀ p : Place, p.faultAt f = none
  · obtain ⟨s, hs⟩ := exists_ofFields_iff.mpr hnone
    cases hs.symm.trans hload
  · obtain ⟨p, hp⟩ := not_forall.mp hnone
    cases (ofFields_of_fault hp hsecret).symm.trans hload

/-- Settings are loaded exactly where nothing is wrong. A secret that everybody knows is told before
all else. What else is wrong is told place by place, in words that do not depend on the secret. -/
theorem load_classified (h : i.merged = .ok f) :
    ((∃ s, load i = .ok s) ↔ ∀ p : Place, p.faultAt f = none) ∧
    ((∃ e, load i = .error e ∧ e.kind = "InsecureSecretKeyError") ↔
      secretOf f = some (.ofString placeholderSecret)) ∧
    (secretOf f ≠ some (.ofString placeholderSecret) → (∃ p : Place, p.faultAt f ≠ none) →
      ∃ e, load i = .error e ∧ e.kind = "ConfigurationError" ∧
        e.message = "Invalid settings: " ++ "; ".intercalate (complaints f)) ∧
    (∀ s, load i = .ok s → s.Sound ∧ secretOf f = some s.synthetic.secretKey) ∧
    ∀ (i' : Inputs) (g : Json.Fields) (a b : Text), i'.merged = .ok g → SameButSecret f g →
      secretOf f = some a → secretOf g = some b → UsableSecret a → UsableSecret b →
      (∃ s, load i = .ok s ∧ load i' = .ok { s with synthetic.secretKey := b }) ∨
        ∃ e, load i = .error e ∧ load i' = .error e := by
  refine ⟨?_, ?_, ?_, ?_, ?_⟩
  · rw [load_of_merged h]
    exact exists_ofFields_iff
  · simp only [kind_eq_insecure_iff, exists_eq_right, load_eq_insecureSecret_iff h]
  · rintro hsecret ⟨p, hp⟩
    exact ⟨_, (load_of_merged h).trans (ofFields_of_fault hp hsecret), rfl, message_invalid f⟩
  · intro s hs
    refine ⟨sound_of_load hs, secretOf_of_readFields ?_⟩
    rwa [load_of_merged h, ofFields_eq_ok_iff] at hs
  · intro i' g a b hi' hsame ha hb hua hub
    exact hsame.load_eq h hi' ha hb hua hub

/-- A template with the telling word in it is no reason to speak of the secret. -/
theorem load_of_insecure_name :
    let i (secret : String) : Inputs :=
      { overrides :=
          [("synthetic", .object [("secret_key", .string secret),
            ("template", .string "\x7b\x7binsecure\x7d\x7d")])] }
    let f (secret : String) : Json.Fields := (i secret).overrides
    (i "first").merged = .ok (f "first") ∧ (i "second").merged = .ok (f "second") ∧
      SameButSecret (f "first") (f "second") ∧
      ∃ e, load (i "first") = .error e ∧ load (i "second") = .error e ∧
        e.kind = "ConfigurationError" := by
  intro i f
  have hfault : Place.template.faultAt (f "first") ≠ none := by decide +kernel +revert
  have hsecret : secretOf (f "first") ≠ some (.ofString placeholderSecret) := by
    decide +kernel +revert
  have hname : Case.lowerText "synthetic" = Text.ofString "synthetic" := by decide +kernel
  have hmerged (secret : String) : (i secret).merged = .ok (f secret) := by
    change Except.ok (merge [] (merge [] (i secret).givenFields)) = _
    simp [Inputs.givenFields, i, f, hname, OrderedMap.ofPairs, OrderedMap.put, merge]
  have hsame : SameButSecret (f "first") (f "second") := by
    refine ⟨?_, _, _, rfl, rfl, ?_⟩
    · intro name hname
      simp [f, i, List.lookup_cons, beq_eq_false_iff_ne.mpr hname]
    · intro name hname
      simp [List.lookup_cons, beq_eq_false_iff_ne.mpr hname]
  obtain ⟨-, -, htold, -, hsecrets⟩ := load_classified (hmerged "first")
  obtain ⟨e, he, hkind, -⟩ := htold hsecret ⟨.template, hfault⟩
  have hu : UsableSecret (.ofString "first") := ⟨by decide, by decide⟩
  have hu' : UsableSecret (.ofString "second") := ⟨by decide, by decide⟩
  obtain ⟨s, hs, -⟩ | ⟨e', he', hother⟩ :=
    hsecrets (i "second") (f "second") (.ofString "first") (.ofString "second") (hmerged "second")
      hsame rfl rfl hu hu'
  · cases hs.symm.trans he
  · obtain rfl : e = e' := Except.error.inj (he.symm.trans he')
    exact ⟨hmerged "first", hmerged "second", hsame, e, he, hother, hkind⟩

end Settings

end ConsentGate
