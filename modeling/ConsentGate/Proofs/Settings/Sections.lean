import ConsentGate.Proofs.Settings.Checks

namespace ConsentGate.Settings

variable {source : Source} {vars : EnvFile} {name : String} {known : List String}
  {e : SectionError} {err : SettingsError} {i : Inputs}

def sectionNames : List String := sections.map (·.1)

/-- The variables of a source by their names in lower case. -/
def Inputs.variables (i : Inputs) : Source → EnvFile
  | .environment => lowerNames (i.environment.map fun (k, v) => (k, some v))
  | .envFile => lowerNames ((i.envFile.map (EnvFile.ofString i.environment)).getD [])

/-- Every variable that is named like a whole section holds JSON. -/
def Inputs.SectionsReadable (i : Inputs) : Prop :=
  ∀ source, ∀ name ∈ sectionNames, ∀ text,
    (i.variables source).lookup (mark ++ name) = some (some text) →
      ∃ j, Json.parseWithin levelLimit text = .ok j

def failure? (source : Source) (vars : EnvFile) (name : String) : Option SectionError :=
  match vars.lookup (mark ++ name) with
  | some (some text) =>
    match sectionText name source text with
    | .error e => some e
    | .ok _ => none
  | _ => none

/-- The sources are read one after the other, and in each of them its sections. -/
def Inputs.firstFailure? (i : Inputs) : Option SectionError :=
  [Source.environment, Source.envFile].findSome? fun source =>
    sectionNames.findSome? (failure? source (i.variables source))

theorem failure?_eq_some_iff :
    failure? source vars name = some e ↔
      ∃ text, vars.lookup (mark ++ name) = some (some text) ∧
        sectionText name source text = .error e := by
  unfold failure?
  split
  · next text htext =>
    cases h : sectionText name source text <;> simp [htext, h]
  · next hnone =>
    refine iff_of_false nofun ?_
    rintro ⟨text, htext, -⟩
    exact hnone text htext

theorem readSection_eq_error_iff :
    readSection source vars name known = .error e ↔ failure? source vars name = some e := by
  unfold readSection failure?
  cases vars.lookup (mark ++ name) with
  | none => exact iff_of_false nofun nofun
  | some value =>
    cases value with
    | none => exact iff_of_false nofun nofun
    | some text =>
      cases h : sectionText name source text with
      | error e' => simp [h, bind, Except.bind]
      | ok j =>
        simp only [h]
        cases j <;> exact iff_of_false nofun nofun

theorem readSections_eq_error_iff {l : List (String × List String)} (e : SectionError) :
    readSections source vars l = .error e ↔
      (l.map (·.1)).findSome? (failure? source vars) = some e := by
  -- The sections behind may fail with another error, so the induction is for every one.
  induction l generalizing e with
  | nil => exact iff_of_false nofun nofun
  | cons entry rest ih =>
    rw [readSections, List.map_cons, ← List.singleton_append, List.findSome?_append,
      List.findSome?_singleton]
    refine bind_eq_error_iff_or (fun e => readSection_eq_error_iff) ?_ e
    intro value e
    rw [bind_pure_eq_error_iff, ih]

theorem readSource_eq_error_iff :
    readSource source vars = .error e ↔ sectionNames.findSome? (failure? source vars) = some e := by
  rw [readSource, bind_pure_eq_error_iff, readSections_eq_error_iff, sectionNames]

theorem merged_eq_error_iff : i.merged = .error e ↔ i.firstFailure? = some e := by
  rw [Inputs.firstFailure?, ← List.singleton_append, List.findSome?_append,
    List.findSome?_singleton, List.findSome?_singleton]
  refine bind_eq_error_iff_or (fun e => readSource_eq_error_iff) ?_ e
  intro environment e
  rw [bind_pure_eq_error_iff]
  exact readSource_eq_error_iff

theorem failure?_eq_none_iff :
    failure? source vars name = none ↔
      ∀ text, vars.lookup (mark ++ name) = some (some text) →
        ∃ j, Json.parseWithin levelLimit text = .ok j := by
  rw [Option.eq_none_iff_forall_ne_some]
  simp only [ne_eq, failure?_eq_some_iff, not_exists, not_and]
  constructor
  · intro h text htext
    cases hparse : Json.parseWithin levelLimit text with
    | ok j => exact ⟨j, rfl⟩
    | error e => exact absurd (congrArg _ hparse) (h _ text htext)
  · intro h e text htext hfails
    obtain ⟨j, hj⟩ := h text htext
    rw [sectionText, hj] at hfails
    cases hfails

theorem firstFailure?_eq_none_iff : i.firstFailure? = none ↔ i.SectionsReadable := by
  simp only [Inputs.firstFailure?, List.findSome?_eq_none_iff, failure?_eq_none_iff]
  constructor
  · intro h source
    exact h source (by cases source <;> decide)
  · intro h source _
    exact h source

theorem ofFields_ne_ofSection (f : Json.Fields) (e : SectionError) :
    ofFields f ≠ .error (.ofSection e) := by
  intro h
  unfold ofFields at h
  split at h
  · cases h
  · split at h <;> cases h

theorem load_eq_ofSection_iff : load i = .error (.ofSection e) ↔ i.firstFailure? = some e := by
  rw [← merged_eq_error_iff]
  cases hmerged : i.merged with
  | error e' => simp [load, hmerged]
  | ok f => simp [load_of_merged hmerged, ofFields_ne_ofSection]

theorem isConfiguration_eq_false_iff : err.isConfiguration = false ↔ ∃ e, err = .ofSection e := by
  cases err <;> simp [SettingsError.isConfiguration]

/-- Loading ends with settings or an error of the configuration where all that is given for whole
sections can be read. Else it ends with the first text that cannot, and with an error of another
kind. -/
theorem load_by_configuration_iff (i : Inputs) :
    (((∃ s, load i = .ok s) ∨ ∃ err, load i = .error err ∧ err.isConfiguration = true) ↔
      i.SectionsReadable) ∧
    ∀ err, load i = .error err ∧ err.isConfiguration = false ↔
      ∃ e, i.firstFailure? = some e ∧ err = .ofSection e := by
  have hescapes (err : SettingsError) : load i = .error err ∧ err.isConfiguration = false ↔
      ∃ e, i.firstFailure? = some e ∧ err = .ofSection e := by
    simp only [isConfiguration_eq_false_iff, ← load_eq_ofSection_iff]
    constructor
    · rintro ⟨hload, e, rfl⟩
      exact ⟨e, hload, rfl⟩
    · rintro ⟨e, hload, rfl⟩
      exact ⟨hload, e, rfl⟩
  refine ⟨?_, hescapes⟩
  rw [← firstFailure?_eq_none_iff]
  constructor
  · intro hconfiguration
    by_contra hsome
    obtain ⟨e, he⟩ := Option.ne_none_iff_exists'.mp hsome
    have hload := load_eq_ofSection_iff.mpr he
    obtain ⟨s, hs⟩ | ⟨err, herr, hkind⟩ := hconfiguration
    · cases hs.symm.trans hload
    · obtain rfl : err = .ofSection e := Except.error.inj (herr.symm.trans hload)
      cases hkind
  · intro hnone
    cases hload : load i with
    | ok s => exact .inl ⟨s, rfl⟩
    | error err =>
      refine .inr ⟨err, rfl, ?_⟩
      rw [← Bool.not_eq_false]
      intro hkind
      obtain ⟨e, he, -⟩ := (hescapes err).mp ⟨hload, hkind⟩
      rw [hnone] at he
      cases he

theorem unreadable_section_escapes :
    let i : Inputs := { environment := [("TRUSTED_SERVER__SYNTHETIC", "\x7b")] }
    (∃ err, load i = .error err ∧ err.kind = "SettingsError") ∧
      ¬((∃ s, load i = .ok s) ∨ ∃ err, load i = .error err ∧ err.isConfiguration = true) := by
  intro i
  have hfirst : i.firstFailure? = some (.unreadable "synthetic" .environment) := by
    decide +kernel +revert
  have hload := load_eq_ofSection_iff.mpr hfirst
  refine ⟨⟨_, hload, rfl⟩, ?_⟩
  rintro (⟨s, hs⟩ | ⟨err, herr, hkind⟩)
  · cases hs.symm.trans hload
  · obtain rfl := Except.error.inj (herr.symm.trans hload)
    cases hkind

end ConsentGate.Settings
