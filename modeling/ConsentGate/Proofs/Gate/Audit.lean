import ConsentGate.Proofs.Gate.HeldList

namespace ConsentGate

/-- All the purposes are consented to, and so is the vendor where one is set. -/
def Gate.Consents (g : Gate) (c : Consent) (qs : List Int) : Prop :=
  (∀ q ∈ qs, c.allowsPurpose q = true) ∧ ∀ v ∈ g.vendorId, c.allowsVendor v = true

instance {g : Gate} {c : Consent} {qs : List Int} : Decidable (g.Consents c qs) := by
  unfold Gate.Consents
  infer_instance

namespace Decision

/-- The list has the version that the record names, and it backs the vendor of the record, which is
consented to, in all that was asked for. -/
structure VouchedBy (d : Decision) (c : Consent) (l : VendorList) : Prop where
  version : d.vendorListVersion = some l.version
  vendor : ∃ v, d.vendorId = some v ∧ c.allowsVendor v = true ∧ l.Backs v d.requestedPurposes

structure ByConsentAlone (d : Decision) (g : Gate) (c : Consent) : Prop where
  allowed : d.allowed = true ↔ g.Consents c d.requestedPurposes
  deviceAccess : d.deviceAccess = true ↔ g.Consents c [1]
  advertisingLevel : d.advertisingLevel =
    if g.Consents c [2, 3, 4] then .personalized
    else if g.Consents c [2] then .basicOnly else .none

theorem VouchedBy.vendorId_ne_none {d : Decision} {c : Consent} {l : VendorList}
    (h : d.VouchedBy c l) : d.vendorId ≠ none := by
  obtain ⟨_, hv, _⟩ := h.vendor
  exact Option.ne_none_iff_exists'.mpr ⟨_, hv⟩

end Decision

namespace Gate

variable {g : Gate} {cache : Option Cache} {now time : Moment} {s : Signals} {ps qs : List Int}
  {c : Consent} {l : VendorList} {list : Option VendorList} {d : Decision}

theorem isAllowed_iff_consents (h : list = none ∨ g.vendorId = none) :
    (g.isAllowed c qs list).1 = true ↔ g.Consents c qs := by
  rw [isAllowed_iff, Consents]
  obtain rfl | h := h
  · simp
  · simp [h]

theorem byConsentAlone_of_judge (h : list = none ∨ g.vendorId = none)
    (hd : (g.judge s ps time c list).result = .ok d) : d.ByConsentAlone g c := by
  obtain ⟨_, _, _, rfl⟩ := eq_of_judge hd
  refine ⟨isAllowed_iff_consents h, isAllowed_iff_consents h, ?_⟩
  exact advertisingLevel_eq.trans
    (AdvertisingLevel.graded_eq (isAllowed_iff_consents h) (isAllowed_iff_consents h))

theorem vouchedBy_of_judge (hd : (g.judge s ps time c (some l)).result = .ok d)
    (hallowed : d.allowed = true) (hvendor : g.vendorId ≠ none) : d.VouchedBy c l := by
  obtain ⟨v, hv⟩ := Option.ne_none_iff_exists'.mp hvendor
  obtain ⟨_, _, _, rfl⟩ := eq_of_judge hd
  obtain ⟨hconsent, _⟩ := (isAllowed_iff.mp hallowed).2 v hv
  exact ⟨rfl, v, hv, hconsent, backs_of_isAllowed hv hallowed⟩

theorem record_of_evaluate (hd : (g.evaluate cache now s ps time).decision.result = .ok d) :
    d.vendorId = g.vendorId ∧ d.requestedPurposes = ps ∧
      d.vendorListVersion = (g.listInForce cache).map (·.version) := by
  rw [result_evaluate] at hd
  obtain ⟨_, _, _, rfl⟩ := eq_of_judge hd
  exact ⟨rfl, rfl, rfl⟩

/-- A record that names a version is vouched for by the list which the cache holds if a vendor is
set, and only then. Without a vendor the version is named though the list was not consulted. -/
theorem vouched_iff_vendor (hd : (g.evaluate cache now s ps time).decision.result = .ok d) :
    d.vendorId = g.vendorId ∧ d.requestedPurposes = ps ∧
    (∀ version, d.vendorListVersion = some version →
      ∃ l, cache.bind Cache.list = some l ∧ l.version = version ∧
        (d.allowed = true → (d.VouchedBy (g.consentFor now s).1 l ↔ g.vendorId ≠ none))) ∧
    (d.vendorListVersion = none ∨ g.vendorId = none →
      d.ByConsentAlone g (g.consentFor now s).1) := by
  obtain ⟨hvendor, hpurposes, hversion⟩ := record_of_evaluate hd
  rw [result_evaluate] at hd
  refine ⟨hvendor, hpurposes, ?_, ?_⟩
  · intro version hnamed
    rw [hversion, Option.map_eq_some_iff] at hnamed
    obtain ⟨l, hl, rfl⟩ := hnamed
    refine ⟨l, (Option.ite_none_right_eq_some.mp hl).2, rfl, fun hallowed => ?_⟩
    rw [hl] at hd
    constructor
    · intro hvouched
      exact hvendor ▸ hvouched.vendorId_ne_none
    · exact vouchedBy_of_judge hd hallowed
  · intro h
    rw [hversion, Option.map_eq_none_iff] at h
    exact byConsentAlone_of_judge h hd

theorem exists_allowed (time : Moment) {t : Template} (hsecret : g.resolver.secret ≠ [])
    (hkey : g.resolver.secret.Whole)
    (ht : Template.parseWith Attribute.names g.resolver.template = .ok t)
    (htemplate : g.resolver.template.Whole) (hs : (Attributes.ofSignals s).Whole)
    (h : g.allows cache now s ps = true) :
    ∃ d, (g.evaluate cache now s ps time).decision.result = .ok d ∧ d.allowed = true := by
  obtain ⟨id, hid⟩ := exists_generated hsecret hkey ht htemplate hs
  obtain ⟨d, hd⟩ : ∃ d, (g.evaluate cache now s ps time).decision.result = .ok d :=
    exists_result_of_allows h hid
  exact ⟨d, hd, (allowed_eq_allows hd).trans h⟩

/-- The list vouches for what was asked, though it has not every purpose that is consented to. -/
theorem vouched_by_held_list :
    let vendor : Vendor := { id := 45, name := "v", purposes := [1] }
    let held : VendorList := { vendors := [(45, vendor)], version := 42 }
    let cache := Cache.create ⟨0, some .utc⟩ none Cache.weekly Cache.hourly (some held) none
    let g : Gate := ⟨⟨"key", "id", "", ""⟩,
      some fun _ => .ok (.model ⟨[1, 2], [45]⟩), some 45, true⟩
    let s : Signals := { cookies := [("euconsent-v2", "t")] }
    ∃ d, (g.evaluate (some cache) ⟨0, some .utc⟩ s [1] ⟨0, some .utc⟩).decision.result = .ok d ∧
      d.allowed = true ∧ d.vendorListVersion = some 42 ∧
      d.VouchedBy (g.consentFor ⟨0, some .utc⟩ s).1 held := by
  intro vendor held cache g s
  have hallows : g.allows (some cache) ⟨0, some .utc⟩ s [1] = true := by decide +kernel +revert
  have hparse : Template.parseWith Attribute.names (.ofString "id") =
      .ok ((Text.ofString "id").map .literal) := by decide +kernel
  have hsecret : g.resolver.secret ≠ [] := nofun
  obtain ⟨d, hd, hallowed⟩ := exists_allowed ⟨0, some .utc⟩ hsecret (Text.whole_ofChars _)
    hparse (Text.whole_ofChars _) (by decide) hallows
  obtain ⟨_, _, hversion⟩ := record_of_evaluate hd
  obtain ⟨_, _, hnamed, _⟩ := vouched_iff_vendor hd
  obtain ⟨l, hl, _, hvouched⟩ := hnamed 42 hversion
  obtain rfl : held = l := Option.some.inj hl
  exact ⟨d, hd, hallowed, hversion, (hvouched hallowed).mpr nofun⟩

/-- Without a vendor a record names the version of a list that has no vendor at all. -/
theorem version_without_vendor :
    let cache := Cache.create ⟨0, some .utc⟩ none Cache.weekly Cache.hourly
      (some { version := 42 }) none
    let g : Gate := ⟨⟨"key", "id", "", ""⟩,
      some fun _ => .ok (.model ⟨[1], []⟩), none, true⟩
    let s : Signals := { cookies := [("euconsent-v2", "t")] }
    ∃ d, (g.evaluate (some cache) ⟨0, some .utc⟩ s [1] ⟨0, some .utc⟩).decision.result = .ok d ∧
      d.allowed = true ∧ d.vendorListVersion = some 42 ∧
      (∀ l ∈ cache.list, ∀ v, l.lists v = false) ∧
      ∀ l, ¬d.VouchedBy (g.consentFor ⟨0, some .utc⟩ s).1 l := by
  intro cache g s
  have hallows : g.allows (some cache) ⟨0, some .utc⟩ s [1] = true := rfl
  have hparse : Template.parseWith Attribute.names (.ofString "id") =
      .ok ((Text.ofString "id").map .literal) := by decide +kernel
  have hsecret : g.resolver.secret ≠ [] := nofun
  obtain ⟨d, hd, hallowed⟩ := exists_allowed ⟨0, some .utc⟩ hsecret (Text.whole_ofChars _)
    hparse (Text.whole_ofChars _) (by decide) hallows
  obtain ⟨hvendor, _, hversion⟩ := record_of_evaluate hd
  refine ⟨d, hd, hallowed, hversion, ?_, ?_⟩
  · rintro l ⟨⟩ v
    rfl
  · intro l hvouched
    exact hvouched.vendorId_ne_none hvendor

end Gate

end ConsentGate
