import ConsentGate.Proofs.Consent.Check

namespace ConsentGate

section

variable {l l' : VendorList} {v p : Int}

/-- Each vendor of the one list is in the other and declares there at least the same purposes. -/
def VendorList.Within (l l' : VendorList) : Prop :=
  ∀ v, ∀ info ∈ l.get? v, ∃ info' ∈ l'.get? v, info.declared ⊆ info'.declared

theorem VendorList.Within.lists (h : l.Within l') (hv : l.lists v = true) : l'.lists v = true := by
  obtain ⟨info, hinfo⟩ := lists_iff.mp hv
  obtain ⟨info', hinfo', -⟩ := h v info hinfo
  exact lists_iff.mpr ⟨info', hinfo'⟩

theorem VendorList.Within.declares (h : l.Within l') (hp : l.declares v p = true) :
    l'.declares v p = true := by
  obtain ⟨info, hinfo, hdeclared⟩ := declares_iff.mp hp
  obtain ⟨info', hinfo', hsubset⟩ := h v info hinfo
  have hdeclared' : p ∈ info'.declared := hsubset (Vendor.mem_declared.mpr hdeclared)
  exact declares_iff.mpr ⟨info', hinfo', Vendor.mem_declared.mp hdeclared'⟩

/-- The list is no longer asked for, or it is one within which the former lies. -/
def Loosened (l l' : Option VendorList) : Prop := ∀ list' ∈ l', ∃ list ∈ l, list.Within list'

theorem Loosened.refl (l : Option VendorList) : Loosened l l :=
  fun list hlist => ⟨list, hlist, fun _ info hinfo => ⟨info, hinfo, List.Subset.refl _⟩⟩

theorem AdvertisingLevel.privilege_graded_mono {p p' b b' : Bool} (hp : p = true → p' = true)
    (hb : b = true → b' = true) : (graded p b).privilege ≤ (graded p' b').privilege := by
  revert p p' b b'
  decide

end

namespace Consent

variable {c c' : Consent} {v : Int} {ps qs : List Int} {l l' : Option VendorList}

/-- What the one consents to, the other consents to as well. -/
structure Within (c c' : Consent) : Prop where
  purposes : ∀ p, c.purposes.lookup p = some true → c'.purposes.lookup p = some true
  vendors : ∀ v, c.vendors.lookup v = some true → c'.vendors.lookup v = some true

theorem Within.refl (c : Consent) : c.Within c := ⟨fun _ => id, fun _ => id⟩

theorem Within.allowsPurpose (h : c.Within c') {p : Int} (hp : c.allowsPurpose p = true) :
    c'.allowsPurpose p = true := decide_eq_true (h.purposes p (of_decide_eq_true hp))

theorem Within.allowsVendor (h : c.Within c') (hv : c.allowsVendor v = true) :
    c'.allowsVendor v = true := decide_eq_true (h.vendors v (of_decide_eq_true hv))

theorem allowsPurposes_mono (hc : c.Within c') (hqs : qs ⊆ ps) (h : c.allowsPurposes ps = true) :
    c'.allowsPurposes qs = true := by
  rw [allowsPurposes_iff] at h ⊢
  intro q hq
  exact hc.allowsPurpose (h q (hqs hq))

theorem isGranted_check_mono (hc : c.Within c') (hqs : qs ⊆ ps) (hl : Loosened l l')
    (h : (c.check v ps l).isGranted = true) : (c'.check v qs l').isGranted = true := by
  obtain ⟨hvendor, hpurposes, hlist⟩ := isGranted_check_iff.mp h
  refine isGranted_check_iff.mpr ⟨hc.allowsVendor hvendor, ?_, ?_⟩
  · exact fun q hq => hc.allowsPurpose (hpurposes q (hqs hq))
  · intro list' hlist'
    obtain ⟨list, hmem, hwithin⟩ := hl list' hlist'
    obtain ⟨hlists, hdeclares⟩ := hlist list hmem
    exact ⟨hwithin.lists hlists, fun q hq => hwithin.declares (hdeclares q (hqs hq))⟩

theorem privilege_level_mono (hc : c.Within c') (hl : Loosened l l') :
    (c.level v l).privilege ≤ (c'.level v l').privilege := by
  apply AdvertisingLevel.privilege_graded_mono
  · exact isGranted_check_mono hc (List.Subset.refl _) hl
  · exact isGranted_check_mono hc (List.Subset.refl _) hl

theorem privilege_purposeLevel_mono (hc : c.Within c') :
    c.purposeLevel.privilege ≤ c'.purposeLevel.privilege := by
  apply AdvertisingLevel.privilege_graded_mono
  · exact allowsPurposes_mono hc (List.Subset.refl _)
  · exact allowsPurposes_mono hc (List.Subset.refl _)

theorem allowsPurposes_of_isGranted (h : (c.check v ps l).isGranted = true) :
    c.allowsPurposes ps = true := by
  obtain ⟨-, hpurposes, -⟩ := isGranted_check_iff.mp h
  exact allowsPurposes_iff.mpr hpurposes

theorem privilege_level_le_purposeLevel (c : Consent) (v : Int) (l : Option VendorList) :
    (c.level v l).privilege ≤ c.purposeLevel.privilege := by
  apply AdvertisingLevel.privilege_graded_mono
  · exact allowsPurposes_of_isGranted
  · exact allowsPurposes_of_isGranted

theorem check_congr (h : c.Within c') (h' : c'.Within c) : c.check = c'.check := by
  have hpurpose : c.allowsPurpose = c'.allowsPurpose := by
    funext p
    exact Bool.eq_iff_iff.mpr ⟨h.allowsPurpose, h'.allowsPurpose⟩
  have hvendor : c.allowsVendor = c'.allowsVendor := by
    funext v
    exact Bool.eq_iff_iff.mpr ⟨h.allowsVendor, h'.allowsVendor⟩
  funext v ps l
  rw [check, check, hpurpose, hvendor]

theorem allowsPurposes_congr (h : c.Within c') (h' : c'.Within c) (hqs : qs ⊆ ps) (hps : ps ⊆ qs) :
    c.allowsPurposes ps = c'.allowsPurposes qs :=
  Bool.eq_iff_iff.mpr ⟨allowsPurposes_mono h hqs, allowsPurposes_mono h' hps⟩

/-- Consent orders all answers: more of it, fewer purposes and a looser list take no permission
away, a list and the vendor's own consent add none, and nothing but the ids with a true entry
counts, whatever the order of the purposes and however often one is named. -/
theorem answers_monotone :
    (∀ (c c' : Consent) (v : Int) (ps qs : List Int) (l l' : Option VendorList),
      c.Within c' → qs ⊆ ps → Loosened l l' →
        ((c.check v ps l).isGranted = true → (c'.check v qs l').isGranted = true) ∧
        (c.allowsPurposes ps = true → c'.allowsPurposes qs = true) ∧
        (c.level v l).privilege ≤ (c'.level v l').privilege ∧
        c.purposeLevel.privilege ≤ c'.purposeLevel.privilege) ∧
    (∀ (c : Consent) (v : Int) (ps : List Int) (l : Option VendorList),
      ((c.check v ps l).isGranted = true → c.allowsPurposes ps = true) ∧
      (c.level v l).privilege ≤ c.purposeLevel.privilege) ∧
    (∀ c c' : Consent, c.Within c' → c'.Within c →
      (∀ ps, c.allowsPurposes ps = c'.allowsPurposes ps) ∧
      (∀ v ps l, c.check v ps l = c'.check v ps l) ∧
      (∀ v l, c.level v l = c'.level v l ∧ c.levelFindings v l = c'.levelFindings v l) ∧
      c.purposeLevel = c'.purposeLevel) ∧
    ∀ (c : Consent) (ps qs : List Int), ps ⊆ qs → qs ⊆ ps →
      c.allowsPurposes ps = c.allowsPurposes qs ∧
      ∀ v l, (c.check v ps l).isGranted = (c.check v qs l).isGranted := by
  refine ⟨?_, ?_, ?_, ?_⟩
  · intro c c' v ps qs l l' hc hqs hl
    exact ⟨isGranted_check_mono hc hqs hl, allowsPurposes_mono hc hqs, privilege_level_mono hc hl,
      privilege_purposeLevel_mono hc⟩
  · intro c v ps l
    exact ⟨allowsPurposes_of_isGranted, privilege_level_le_purposeLevel c v l⟩
  · intro c c' h h'
    have hcheck := check_congr h h'
    have hpurposes : c.allowsPurposes = c'.allowsPurposes := by
      funext ps
      exact allowsPurposes_congr h h' (List.Subset.refl _) (List.Subset.refl _)
    refine ⟨congrFun hpurposes, fun v ps l => by rw [hcheck], fun v l => ?_, ?_⟩
    · simp only [level, levelFindings, hcheck, and_self]
    · rw [purposeLevel, purposeLevel, hpurposes]
  · intro c ps qs hps hqs
    refine ⟨allowsPurposes_congr (.refl c) (.refl c) hqs hps, fun v l => ?_⟩
    have hl : Loosened l l := .refl l
    exact Bool.eq_iff_iff.mpr
      ⟨isGranted_check_mono (.refl c) hqs hl, isGranted_check_mono (.refl c) hps hl⟩

/-- A consent whose entries were written in another order, with a denial that was taken back, and a
list that has one purpose more for the vendor. -/
theorem answers_with_rewritten_entry :
    let c : Consent :=
      { purposes := [(2, true), (3, false)], vendors := [(45, true)], timestamp := ⟨0, none⟩ }
    let c' : Consent :=
      { purposes := .ofPairs [(3, false), (4, true), (2, false), (3, true), (2, true)]
        vendors := .ofPairs [(7, true), (45, true)]
        timestamp := ⟨0, none⟩ }
    let l : VendorList := { vendors := [(45, { id := 45, name := "v", purposes := [2] })] }
    let l' : VendorList :=
      { vendors := [(45, { id := 45, name := "v", purposes := [3, 4], legitimateInterests := [2] })] }
    c.Within c' ∧ [(2 : Int)] ⊆ [2, 2] ∧ Loosened (some l) (some l') ∧
      (c.check 45 [2, 2] (some l)).isGranted = true ∧ (c'.check 45 [2] (some l')).isGranted = true ∧
      c.level 45 (some l) = .basicOnly ∧
      AdvertisingLevel.basicOnly.privilege ≤ (c'.level 45 (some l')).privilege := by
  intro c c' l l'
  have hc : c.Within c' := by
    constructor
    · intro p hp
      have hentries : ∀ e ∈ c.purposes, e.2 = true → c'.purposes.lookup e.1 = some true := by decide
      exact hentries (p, true) (OrderedMap.mem_of_lookup hp) rfl
    · intro v hv
      have hentries : ∀ e ∈ c.vendors, e.2 = true → c'.vendors.lookup e.1 = some true := by decide
      exact hentries (v, true) (OrderedMap.mem_of_lookup hv) rfl
  have hl : Loosened (some l) (some l') := by
    rintro list' ⟨⟩
    refine ⟨l, rfl, fun v info hinfo => ?_⟩
    obtain ⟨rfl, rfl⟩ := Prod.mk.inj (List.mem_singleton.mp (OrderedMap.mem_of_lookup hinfo))
    refine ⟨_, rfl, fun p hp => ?_⟩
    rcases Vendor.mem_declared.mp hp with hconsent | hinterest
    · obtain rfl := List.mem_singleton.mp hconsent
      exact Vendor.mem_declared.mpr (.inr List.mem_cons_self)
    · cases hinterest
  have hqs : [(2 : Int)] ⊆ [2, 2] := by decide
  obtain ⟨hgranted, -, hlevel, -⟩ := answers_monotone.1 c c' 45 [2, 2] [2] _ _ hc hqs hl
  have hbefore : (c.check 45 [2, 2] (some l)).isGranted = true := by decide +kernel
  have hbasic : c.level 45 (some l) = .basicOnly := by decide +kernel
  rw [hbasic] at hlevel
  exact ⟨hc, hqs, hl, hbefore, hgranted hbefore, hbasic, hlevel⟩

end Consent

end ConsentGate
