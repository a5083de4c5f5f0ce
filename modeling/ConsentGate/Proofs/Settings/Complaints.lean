import ConsentGate.Proofs.Schema.Issues
import ConsentGate.Proofs.Settings.Checks

namespace ConsentGate.Settings

open Schema

/-- What is looked at when settings are read: plain settings, sections and the settings in them. -/
inductive Place where
  | appEnv
  | logLevel
  | logJson
  | publisher
  | domain
  | cookieDomain
  | synthetic
  | secretKey
  | template
  | consent
  | vendorId
  | validates
  | refreshDays
  | retryMinutes
deriving DecidableEq

def wordFault (words : List String) : Json → Option Fault
  | .string s => if s ∈ words then none else some (.notLiteral words)
  | .brokenString _ => some .brokenString
  | _ => some (.notLiteral words)

def sectionFault (name : String) : Json → Option Fault
  | .object _ => none
  | _ => some (.notRecord name)

def optionalFault (fault : Json → Option Fault) : Json → Option Fault
  | .null => none
  | j => fault j

def secretFault (t : Text) : Option Fault :=
  if t = [] then some (.rejected emptySecret)
  else if t = .ofString placeholderSecret then some (.rejected insecureSecret)
  else none

def templateFault (source : Text) : Option Fault :=
  match Template.parseWith Attribute.names source with
  | .error e => some (.rejected e.message)
  | .ok t => if t.names = [] then some (.rejected bareTemplate) else none

namespace Place

/-- In the order in which their issues are told. -/
def all : List Place :=
  [appEnv, logLevel, logJson, publisher, domain, cookieDomain, synthetic, secretKey, template,
    consent, vendorId, validates, refreshDays, retryMinutes]

theorem mem_all (p : Place) : p ∈ all := by cases p <;> decide

def section? : Place → Option Place
  | domain | cookieDomain => some publisher
  | secretKey | template => some synthetic
  | vendorId | validates | refreshDays | retryMinutes => some consent
  | _ => none

def name : Place → String
  | appEnv => "app_env"
  | logLevel => "log_level"
  | logJson => "log_json"
  | publisher => "publisher"
  | domain => "domain"
  | cookieDomain => "cookie_domain"
  | synthetic => "synthetic"
  | secretKey => "secret_key"
  | template => "template"
  | consent => "consent"
  | vendorId => "vendor_id"
  | validates => "validate_with_vendor_list"
  | refreshDays => "vendor_list_refresh_days"
  | retryMinutes => "vendor_list_retry_minutes"

def names (p : Place) : List String := p.section?.toList.map name ++ [p.name]

def path (p : Place) : List Step := p.names.map .field

def isRequired : Place → Bool
  | synthetic | secretKey => true
  | _ => false

def fault : Place → Json → Option Fault
  | appEnv => wordFault (AppEnvironment.words.map (·.1))
  | logLevel => wordFault (Severity.words.map (·.1))
  | logJson | validates => fun j => (readBool j).fault? fun _ => none
  | publisher => sectionFault "PublisherSettings"
  | synthetic => sectionFault "SyntheticSettings"
  | consent => sectionFault "ConsentSettings"
  | domain | cookieDomain => fun j => (readText j).fault? fun _ => none
  | secretKey => fun j => (readText j).fault? secretFault
  | template => fun j => (readText j).fault? templateFault
  | vendorId => optionalFault fun j =>
    (readInt j).fault? fun n => if 0 < n then none else some (.notAbove 0)
  | refreshDays | retryMinutes => fun j =>
    (readInt j).fault? fun n => if 1 ≤ n then none else some (.below 1)

def faultIn (fields : Json.Fields) (p : Place) : Option Fault :=
  match fields.lookup (p.name : Text) with
  | some j => p.fault j
  | none => if p.isRequired then some .missing else none

/-- What is wrong at a place. Nothing is in a section that is not there. -/
def faultAt (fields : Json.Fields) (p : Place) : Option Fault :=
  match p.section? with
  | none => p.faultIn fields
  | some q =>
    match fields.lookup (q.name : Text) with
    | some (.object inner) => p.faultIn inner
    | _ => none

end Place

open Place (faultIn faultAt)

def issuesIn (fields : Json.Fields) (ps : List Place) : List Issue :=
  ps.filterMap fun p => (p.faultIn fields).map fun fault => ⟨fault, [.field p.name]⟩

def issuesAt (fields : Json.Fields) (ps : List Place) : List Issue :=
  ps.filterMap fun p => (p.faultAt fields).map fun fault => ⟨fault, p.path⟩

variable {α : Type} {f g : Json.Fields} {j : Json} {p q : Place} {ps ps' : List Place}
  {default : Option α}

theorem issuesIn_append : issuesIn f (ps ++ ps') = issuesIn f ps ++ issuesIn f ps' :=
  List.filterMap_append

theorem issuesAt_append : issuesAt f (ps ++ ps') = issuesAt f ps ++ issuesAt f ps' :=
  List.filterMap_append

theorem issuesAt_of_section?_eq_none (hp : p.section? = none) :
    issuesAt f [p] = issuesIn f [p] := by
  simp only [issuesAt, issuesIn, List.filterMap_cons, List.filterMap_nil, Place.faultAt, Place.path,
    Place.names, hp, Option.toList_none, List.map_nil, List.nil_append, List.map_cons]

theorem issuesAt_of_object {inner : Json.Fields}
    (h : f.lookup (q.name : Text) = some (.object inner))
    (hps : ∀ p ∈ ps, p.section? = some q) :
    issuesAt f ps =
      (issuesIn inner ps).map fun i => { i with path := .field q.name :: i.path } := by
  rw [issuesAt, issuesIn, List.map_filterMap]
  refine List.filterMap_congr fun p hp => ?_
  simp only [Place.faultAt, Place.path, Place.names, hps p hp, h, Option.map_map]
  rfl

theorem issuesAt_of_no_object (h : ∀ inner, f.lookup (q.name : Text) ≠ some (.object inner))
    (hps : ∀ p ∈ ps, p.section? = some q) : issuesAt f ps = [] := by
  refine List.filterMap_eq_nil_iff.mpr fun p hp => ?_
  rw [Option.map_eq_none_iff, Place.faultAt, hps p hp]
  dsimp only
  split
  · next inner hinner => exact absurd hinner (h inner)
  · rfl

theorem field_of_given {read : Json → Reading α} {name : String}
    (h : f.lookup (name : Text) = some j) :
    field f name read default = (read j).under (.field name) := by
  unfold field
  rw [h]

theorem finds_given {read : Json → Reading α} (h : f.lookup (p.name : Text) = some j)
    (hread : (read j).Finds (only (p.fault j))) :
    (field f p.name read default).Finds (issuesIn f [p]) := by
  have hissues : issuesIn f [p] =
      (only (p.fault j)).map fun i => { i with path := .field p.name :: i.path } := by
    simp only [issuesIn, List.filterMap_cons, List.filterMap_nil, Place.faultIn, h, only]
    cases p.fault j <;> rfl
  rw [field_of_given h, hissues]
  exact hread.under (.field p.name)

theorem finds_absent {read : Json → Reading α} (h : f.lookup (p.name : Text) = none)
    (hdefault : default.isNone = p.isRequired) :
    (field f p.name read default).Finds (issuesIn f [p]) := by
  simp only [issuesIn, List.filterMap_cons, List.filterMap_nil, Place.faultIn, h, ← hdefault]
  unfold field
  rw [h]
  cases default with
  | some a => rfl
  | none => exact ⟨rfl, List.cons_ne_nil _ _⟩

theorem finds_field (f : Json.Fields) (p : Place) (default : Option α) {read : Json → Reading α}
    (hread : ∀ j, (read j).Finds (only (p.fault j))) (hdefault : default.isNone = p.isRequired) :
    (field f p.name read default).Finds (issuesIn f [p]) := by
  cases h : f.lookup (p.name : Text) with
  | some j => exact finds_given h (hread j)
  | none => exact finds_absent h hdefault

theorem finds_section (f : Json.Fields) (q : Place) (default : Option α) {name : String}
    {read : Json.Fields → Reading α} (hq : q.section? = none) (hfault : q.fault = sectionFault name)
    (hps : ∀ p ∈ ps, p.section? = some q) (hread : ∀ inner, (read inner).Finds (issuesIn inner ps))
    (hdefault : default.isNone = q.isRequired) :
    (field f q.name (record name read) default).Finds (issuesAt f (q :: ps)) := by
  rw [← List.singleton_append, issuesAt_append, issuesAt_of_section?_eq_none hq]
  by_cases h : ∃ inner, f.lookup (q.name : Text) = some (.object inner)
  · obtain ⟨inner, hinner⟩ := h
    have hsection : issuesIn f [q] = [] := by
      simp [issuesIn, Place.faultIn, hinner, hfault, sectionFault]
    rw [hsection, issuesAt_of_object hinner hps, List.nil_append, field_of_given hinner]
    exact (hread inner).under (.field q.name)
  · rw [not_exists] at h
    rw [issuesAt_of_no_object h hps, List.append_nil]
    cases hlookup : f.lookup (q.name : Text) with
    | none => exact finds_absent hlookup hdefault
    | some j =>
      refine finds_given hlookup ?_
      rw [hfault]
      cases j with
      | object inner => exact absurd hlookup (h inner)
      | _ => exact Reading.finds_fault _

theorem finds_readWord (words : List (String × α)) (j : Json) :
    (readWord .notLiteral words j).Finds (only (wordFault (words.map (·.1)) j)) := by
  cases j with
  | string s =>
    cases h : words.lookup s with
    | some a =>
      have hs : s ∈ words.map (·.1) := List.mem_map.mpr ⟨(s, a), OrderedMap.mem_of_lookup h, rfl⟩
      simp only [readWord, h, wordFault, hs, ↓reduceIte]
      exact Reading.finds_value a
    | none =>
      have hs : s ∉ words.map (·.1) := by
        intro hmem
        obtain ⟨w, hw, rfl⟩ := List.mem_map.mp hmem
        simpa using List.lookup_eq_none_iff.mp h w hw
      simp only [readWord, h, wordFault, hs, ↓reduceIte]
      exact Reading.finds_fault _
  | brokenString t => exact Reading.finds_fault _
  | _ => exact Reading.finds_fault _

theorem finds_readSecret (j : Json) : (readSecret j).Finds (only (Place.secretKey.fault j)) := by
  refine (simple_readText j).andThen fun t => ?_
  unfold secretFault
  simp only [List.isEmpty_iff]
  split
  · exact Reading.finds_fault _
  · split
    · exact Reading.finds_fault _
    · exact Reading.finds_value _

theorem finds_readTemplate (j : Json) : (readTemplate j).Finds (only (Place.template.fault j)) := by
  refine (simple_readText j).andThen fun t => ?_
  unfold templateFault
  cases Template.parseWith Attribute.names t with
  | error e => exact Reading.finds_fault _
  | ok parts =>
    simp only [List.isEmpty_iff]
    split
    · exact Reading.finds_fault _
    · exact Reading.finds_value _

theorem finds_readIntFrom (j : Json) :
    (readIntFrom 1 j).Finds
      (only ((readInt j).fault? fun n => if 1 ≤ n then none else some (.below 1))) := by
  refine (simple_readInt j).andThen fun n => ?_
  split
  · exact Reading.finds_value _
  · exact Reading.finds_fault _

theorem finds_readIntAbove (j : Json) :
    (readIntAbove 0 j).Finds
      (only ((readInt j).fault? fun n => if 0 < n then none else some (.notAbove 0))) := by
  refine (simple_readInt j).andThen fun n => ?_
  split
  · exact Reading.finds_value _
  · exact Reading.finds_fault _

theorem finds_optional {read : Json → Reading α} {fault : Json → Option Fault}
    (h : ∀ j, (read j).Finds (only (fault j))) (j : Json) :
    (optional read j).Finds (only (optionalFault fault j)) := by
  cases j with
  | null => rfl
  | _ => exact (h _).map some

theorem finds_readPublisher (f : Json.Fields) :
    (readPublisher f).Finds (issuesIn f [.domain, .cookieDomain]) := by
  have hdomain := finds_field f .domain (some (Text.ofString "localhost")) simple_readText rfl
  have hcookie := finds_field f .cookieDomain (some (Text.ofString "localhost")) simple_readText rfl
  have hall := (hdomain.map PublisherSettings.mk).seq hcookie
  rwa [← issuesIn_append] at hall

theorem finds_readSynthetic (f : Json.Fields) :
    (readSynthetic f).Finds (issuesIn f [.secretKey, .template]) := by
  have hsecret := finds_field f .secretKey none finds_readSecret rfl
  have htemplate := finds_field f .template (some Resolver.defaultTemplate) finds_readTemplate rfl
  have hall := (hsecret.map SyntheticSettings.mk).seq htemplate
  rwa [← issuesIn_append] at hall

theorem finds_readConsent (f : Json.Fields) :
    (readConsent f).Finds (issuesIn f [.vendorId, .validates, .refreshDays, .retryMinutes]) := by
  have hvendor := finds_field f .vendorId (some none) (finds_optional finds_readIntAbove) rfl
  have hvalidates := finds_field f .validates (some true) simple_readBool rfl
  have hrefresh := finds_field f .refreshDays (some 7) finds_readIntFrom rfl
  have hretry := finds_field f .retryMinutes (some 60) finds_readIntFrom rfl
  have hall := (((hvendor.map ConsentSettings.mk).seq hvalidates).seq hrefresh).seq hretry
  rwa [← issuesIn_append, ← issuesIn_append, ← issuesIn_append] at hall

theorem finds_readFields (f : Json.Fields) : (readFields f).Finds (issuesAt f Place.all) := by
  have henv := finds_field f .appEnv (some .development) (finds_readWord AppEnvironment.words) rfl
  have hlevel := finds_field f .logLevel (some .info) (finds_readWord Severity.words) rfl
  have hjson := finds_field f .logJson (some false) simple_readBool rfl
  have hpublisher := finds_section f .publisher (some {}) rfl rfl (by decide)
    finds_readPublisher rfl
  have hsynthetic := finds_section f .synthetic none rfl rfl (by decide) finds_readSynthetic rfl
  have hconsent := finds_section f .consent (some {}) rfl rfl (by decide) finds_readConsent rfl
  rw [← issuesAt_of_section?_eq_none rfl] at henv hlevel hjson
  have hall := (((((henv.map Settings.mk).seq hlevel).seq hjson).seq hpublisher).seq hsynthetic).seq
    hconsent
  rwa [← issuesAt_append, ← issuesAt_append, ← issuesAt_append, ← issuesAt_append,
    ← issuesAt_append] at hall

end ConsentGate.Settings
