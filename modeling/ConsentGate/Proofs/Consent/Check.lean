import ConsentGate.Consent.Basic

namespace ConsentGate

namespace VendorList

theorem lists_iff {l : VendorList} {v : Int} : l.lists v = true ↔ ∃ info, l.get? v = some info :=
  Option.isSome_iff_exists

theorem declares_iff {l : VendorList} {v p : Int} :
    l.declares v p = true ↔
      ∃ info, l.get? v = some info ∧ (p ∈ info.purposes ∨ p ∈ info.legitimateInterests) := by
  simp only [declares, Option.any_eq_true, List.contains_iff_mem, Vendor.mem_declared]

theorem lists_and_declares_iff {l : VendorList} {v : Int} {ps : List Int} :
    (l.lists v = true ∧ ∀ p ∈ ps, l.declares v p = true) ↔
      ∃ info ∈ l.get? v, ∀ p ∈ ps, p ∈ info.purposes ∨ p ∈ info.legitimateInterests := by
  simp only [lists_iff, declares_iff]
  cases l.get? v <;> simp

end VendorList

namespace Consent

variable {c : Consent} {l : VendorList} {v : Int} {ps qs : List Int}

theorem allowsPurposes_iff : c.allowsPurposes ps = true ↔ ∀ p ∈ ps, c.allowsPurpose p = true :=
  List.all_eq_true

theorem listObjection_eq_none_iff :
    listObjection l v ps = none ↔ l.lists v = true ∧ ∀ p ∈ ps, l.declares v p = true := by
  unfold listObjection
  by_cases hv : l.lists v = true
  · simp [hv, List.find?_eq_none]
  · simp [hv]

theorem isGranted_of_listObjection {f : Finding} (h : listObjection l v ps = some f) :
    f.isGranted = false := by
  unfold listObjection at h
  split at h
  · cases h
    rfl
  · obtain ⟨p, _, rfl⟩ := Option.map_eq_some_iff.mp h
    rfl

theorem isGranted_check_iff {l : Option VendorList} :
    (c.check v ps l).isGranted = true ↔
      c.allowsVendor v = true ∧ (∀ p ∈ ps, c.allowsPurpose p = true) ∧
        ∀ list ∈ l, list.lists v = true ∧ ∀ p ∈ ps, list.declares v p = true := by
  have hlist : (∀ list ∈ l, list.lists v = true ∧ ∀ p ∈ ps, list.declares v p = true) ↔
      l.bind (listObjection · v ps) = none := by
    simp only [Option.bind_eq_none_iff, listObjection_eq_none_iff, Option.mem_def]
  rw [hlist]
  unfold check
  cases hobjection : l.bind (listObjection · v ps) with
  | some f =>
    obtain ⟨list, _, hf⟩ := Option.bind_eq_some_iff.mp hobjection
    simp [isGranted_of_listObjection hf]
  | none =>
    by_cases hv : c.allowsVendor v = true
    · cases hdenied : ps.find? (!c.allowsPurpose ·) with
      | some p =>
        have hp := List.find?_some hdenied
        have hmem := List.mem_of_find?_eq_some hdenied
        simp only [Bool.not_eq_true'] at hp
        simp only [hv, Finding.isGranted, Bool.not_true, Bool.false_eq_true, ↓reduceIte, true_and,
          and_true, false_iff]
        intro hall
        rw [hall p hmem] at hp
        cases hp
      | none =>
        have hall := List.find?_eq_none.mp hdenied
        simpa [hv, Finding.isGranted] using hall
    · simp [hv, Finding.isGranted]

end Consent

end ConsentGate
