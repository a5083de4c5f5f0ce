import ConsentGate.Gate
import ConsentGate.Proofs.Consent.Check

namespace ConsentGate

theorem Finding.isGranted_iff_name {f : Finding} :
    f.isGranted = true ↔ f.event.name = "consent_granted" := by
  cases f <;> simp [isGranted, event, Event.name]

def Vendor.Declares (info : Vendor) (p : Int) : Prop :=
  p ∈ info.purposes ∨ p ∈ info.legitimateInterests

namespace Consent

variable {c : Consent} {v p : Int} {ps : List Int} {l : Option VendorList} {list : VendorList}
  {info : Vendor}

def FirstWithout (P : Int → Prop) (ps : List Int) (p : Int) : Prop :=
  ∃ before after, ps = before ++ p :: after ∧ (∀ q ∈ before, P q) ∧ ¬P p

/-- The vendor list, where there is one, has the vendor with all the purposes. -/
def Listed (l : Option VendorList) (v : Int) (ps : List Int) : Prop :=
  ∀ list ∈ l, ∃ info ∈ list.get? v, ∀ p ∈ ps, info.Declares p

def Consents (c : Consent) (p : Int) : Prop := c.purposes.lookup p = some true

/-- The line of the log that tells of a check. -/
inductive Reports (c : Consent) (v : Int) (ps : List Int) (l : Option VendorList) :
    String → Json.Fields → Prop
  | vendorNotListed (list : VendorList) : list ∈ l → list.get? v = none →
      Reports c v ps l "vendor_not_in_gvl" [("vendor_id", .int v)]
  | purposeNotDeclared (list : VendorList) (info : Vendor) (p : Int) : list ∈ l → info ∈ list.get? v →
      FirstWithout info.Declares ps p →
      Reports c v ps l "vendor_purpose_not_declared" [("vendor_id", .int v), ("purpose_id", .int p)]
  | vendorDenied : Listed l v ps → c.vendors.lookup v ≠ some true →
      Reports c v ps l "vendor_consent_denied" [("vendor_id", .int v)]
  | purposeDenied (p : Int) : Listed l v ps → c.vendors.lookup v = some true →
      FirstWithout c.Consents ps p →
      Reports c v ps l "purpose_consent_denied" [("vendor_id", .int v), ("purpose_id", .int p)]
  | granted : Listed l v ps → c.vendors.lookup v = some true → (∀ p ∈ ps, c.Consents p) →
      Reports c v ps l "consent_granted" [("vendor_id", .int v), ("purposes", .ints ps)]

theorem find?_not_eq_some_iff {ok : Int → Bool} {P : Int → Prop} (hok : ∀ q, ok q = true ↔ P q) :
    ps.find? (!ok ·) = some p ↔ FirstWithout P ps p := by
  rw [List.find?_eq_some_iff_append]
  simp only [Bool.not_eq_true', Bool.not_not, ← Bool.not_eq_true, hok]
  constructor
  · rintro ⟨hp, before, after, rfl, hbefore⟩
    exact ⟨before, after, rfl, hbefore, hp⟩
  · rintro ⟨before, after, rfl, hbefore, hp⟩
    exact ⟨hp, before, after, rfl, hbefore⟩

theorem find?_not_eq_none_iff {ok : Int → Bool} {P : Int → Prop} (hok : ∀ q, ok q = true ↔ P q) :
    ps.find? (!ok ·) = none ↔ ∀ q ∈ ps, P q := by
  rw [List.find?_eq_none]
  simp only [Bool.not_eq_true', Bool.not_eq_false, hok]

theorem declares_iff_of_get? (hinfo : info ∈ list.get? v) (q : Int) :
    list.declares v q = true ↔ info.Declares q := by
  rw [VendorList.declares_iff, Option.mem_def.mp hinfo]
  simp only [Option.some.injEq, exists_eq_left', Vendor.Declares]

theorem allowsPurpose_iff (c : Consent) (p : Int) : c.allowsPurpose p = true ↔ c.Consents p :=
  decide_eq_true_iff

theorem allowsVendor_iff : c.allowsVendor v = true ↔ c.vendors.lookup v = some true :=
  decide_eq_true_iff

theorem listObjection_of_not_listed (h : list.get? v = none) :
    listObjection list v ps = some (.vendorNotListed v) := by
  simp only [listObjection, VendorList.lists, h, Option.isSome_none, Bool.not_false, ↓reduceIte]

theorem listObjection_of_listed (hinfo : info ∈ list.get? v) :
    listObjection list v ps = (ps.find? (!list.declares v ·)).map (.purposeNotDeclared v) := by
  simp only [listObjection, VendorList.lists, Option.mem_def.mp hinfo, Option.isSome_some, Bool.not_true,
    Bool.false_eq_true, ↓reduceIte]

theorem bind_listObjection_eq_none_iff : l.bind (listObjection · v ps) = none ↔ Listed l v ps := by
  simp only [Option.bind_eq_none_iff, listObjection_eq_none_iff, VendorList.lists_and_declares_iff]
  exact Iff.rfl

theorem check_of_objection {f : Finding} (hl : list ∈ l) (h : listObjection list v ps = some f) :
    c.check v ps l = f := by
  obtain rfl := Option.mem_def.mp hl
  rw [check, Option.bind_some, h]

theorem check_of_listed (h : Listed l v ps) :
    c.check v ps l = if c.allowsVendor v then
      ((ps.find? (!c.allowsPurpose ·)).map (.purposeDenied v)).getD (.granted v ps)
    else .vendorDenied v := by
  rw [check, bind_listObjection_eq_none_iff.mpr h]
  cases c.allowsVendor v with
  | false => rfl
  | true => cases ps.find? (!c.allowsPurpose ·) <;> rfl

theorem reports_check (c : Consent) (v : Int) (ps : List Int) (l : Option VendorList) :
    c.Reports v ps l (c.check v ps l).event.name (c.check v ps l).event.fields := by
  cases hobjection : l.bind (listObjection · v ps) with
  | some f =>
    obtain ⟨list, hl, hf⟩ := Option.bind_eq_some_iff.mp hobjection
    rw [check_of_objection hl hf]
    cases hinfo : list.get? v with
    | none =>
      obtain rfl := Option.some.inj ((listObjection_of_not_listed hinfo).symm.trans hf)
      exact .vendorNotListed list hl hinfo
    | some info =>
      rw [listObjection_of_listed hinfo] at hf
      obtain ⟨p, hp, rfl⟩ := Option.map_eq_some_iff.mp hf
      have hfirst := (find?_not_eq_some_iff (declares_iff_of_get? hinfo)).mp hp
      exact .purposeNotDeclared list info p hl hinfo hfirst
  | none =>
    have hlisted := bind_listObjection_eq_none_iff.mp hobjection
    rw [check_of_listed hlisted]
    by_cases hvendor : c.allowsVendor v = true
    · rw [if_pos hvendor]
      have hconsent := allowsVendor_iff.mp hvendor
      cases hfind : ps.find? (!c.allowsPurpose ·) with
      | some p =>
        have hfirst := (find?_not_eq_some_iff c.allowsPurpose_iff).mp hfind
        exact .purposeDenied p hlisted hconsent hfirst
      | none =>
        have hall := (find?_not_eq_none_iff c.allowsPurpose_iff).mp hfind
        exact .granted hlisted hconsent hall
    · rw [if_neg hvendor]
      exact .vendorDenied hlisted fun h => hvendor (allowsVendor_iff.mpr h)

theorem event_of_reports {name : String} {fields : Json.Fields} (h : c.Reports v ps l name fields) :
    (c.check v ps l).event.name = name ∧ (c.check v ps l).event.fields = fields := by
  cases h with
  | vendorNotListed list hl hnone =>
    rw [check_of_objection hl (listObjection_of_not_listed hnone)]
    exact ⟨rfl, rfl⟩
  | purposeNotDeclared list info p hl hinfo hfirst =>
    have hfind := (find?_not_eq_some_iff (declares_iff_of_get? hinfo)).mpr hfirst
    have hobjection : listObjection list v ps = some (.purposeNotDeclared v p) := by
      rw [listObjection_of_listed hinfo, hfind, Option.map_some]
    rw [check_of_objection hl hobjection]
    exact ⟨rfl, rfl⟩
  | vendorDenied hlisted hdenied =>
    rw [check_of_listed hlisted, if_neg fun h => hdenied (allowsVendor_iff.mp h)]
    exact ⟨rfl, rfl⟩
  | purposeDenied p hlisted hconsent hfirst =>
    have hfind := (find?_not_eq_some_iff c.allowsPurpose_iff).mpr hfirst
    rw [check_of_listed hlisted, if_pos (allowsVendor_iff.mpr hconsent), hfind]
    exact ⟨rfl, rfl⟩
  | granted hlisted hconsent hall =>
    have hfind := (find?_not_eq_none_iff c.allowsPurpose_iff).mpr hall
    rw [check_of_listed hlisted, if_pos (allowsVendor_iff.mpr hconsent), hfind]
    exact ⟨rfl, rfl⟩

theorem listed_iff_of_reports {name : String} {fields : Json.Fields}
    (h : c.Reports v ps l name fields) :
    Listed l v ps ↔ name ∉ ["vendor_not_in_gvl", "vendor_purpose_not_declared"] := by
  cases h with
  | vendorNotListed list hl hnone =>
    refine iff_of_false (fun hlisted => ?_) (by decide)
    obtain ⟨info, hinfo, -⟩ := hlisted list hl
    cases hnone.symm.trans hinfo
  | purposeNotDeclared list info p hl hinfo hfirst =>
    refine iff_of_false (fun hlisted => ?_) (by decide)
    obtain ⟨info', hinfo', hall⟩ := hlisted list hl
    obtain rfl := Option.mem_unique hinfo hinfo'
    obtain ⟨before, after, rfl, -, hp⟩ := hfirst
    exact hp (hall p (List.mem_append_right before List.mem_cons_self))
  | vendorDenied hlisted _ => exact iff_of_true hlisted (by decide)
  | purposeDenied p hlisted _ _ => exact iff_of_true hlisted (by decide)
  | granted hlisted _ _ => exact iff_of_true hlisted (by decide)

/-- A check grants just what vendor, purposes and list all allow, and it logs one event, which names
the first thing that is in the way. -/
theorem check_reported (c : Consent) (v : Int) (ps : List Int) (l : Option VendorList) :
    ((c.check v ps l).isGranted = true ↔
      c.vendors.lookup v = some true ∧ (∀ p ∈ ps, c.Consents p) ∧ Listed l v ps) ∧
    (∀ name fields, (c.check v ps l).event.name = name ∧ (c.check v ps l).event.fields = fields ↔
      c.Reports v ps l name fields) ∧
    ((c.check v ps l).isGranted = true ↔ (c.check v ps l).event.name = "consent_granted") ∧
    (Listed l v ps ↔
      (c.check v ps l).event.name ∉ ["vendor_not_in_gvl", "vendor_purpose_not_declared"]) ∧
    ∀ g : Gate, ({ g with vendorId := some v } : Gate).isAllowed c ps l =
      ((c.check v ps l).isGranted, [(c.check v ps l).event]) := by
  refine ⟨?_, ?_, Finding.isGranted_iff_name, ?_, fun _ => rfl⟩
  · rw [isGranted_check_iff, allowsVendor_iff]
    simp only [allowsPurpose_iff, VendorList.lists_and_declares_iff]
    exact Iff.rfl
  · intro name fields
    refine ⟨?_, event_of_reports⟩
    rintro ⟨rfl, rfl⟩
    exact reports_check c v ps l
  · exact listed_iff_of_reports (reports_check c v ps l)

end Consent

end ConsentGate
