import ConsentGate.Proofs.Consent.Check
import ConsentGate.Proofs.Schema.Reading
import ConsentGate.Proofs.Success
import ConsentGate.VendorList.Gvl

namespace ConsentGate.VendorList

namespace Gvl

open Schema

variable {now : Moment} {payload : Json} {key : Text} {name part : String} {fields : Json.Fields}
  {entries rest : List (Text × Json)} {e : Text × Json} {read m : OrderedMap Int Vendor}
  {info : Vendor} {ids : IdSet} {v p : Int}

/-- The id of an entry is in its field and, only where there is no such field, in its key. -/
def HasId (e : Text × Json) (v : Int) : Prop :=
  ∃ fields, e.2 = .object fields ∧
    readInt ((fields.lookup ("id" : Text)).getD (.ofText e.1)) = .value v

def LastWithId (entries : List (Text × Json)) (v : Int) (key : Text) (fields : Json.Fields) :
    Prop :=
  ∃ before after, entries = before ++ (key, .object fields) :: after ∧
    HasId (key, .object fields) v ∧ ∀ e ∈ after, ¬HasId e v

def Contains (fields : Json.Fields) (name : String) (p : Int) : Prop :=
  ∃ items, fields.lookup (name : Text) = some (.array items) ∧
    ∃ item ∈ items, readInt item = .value p

structure UsableEntry (key : Text) (fields : Json.Fields) : Prop where
  id : ∃ v, HasId (key, .object fields) v ∧ 0 < v
  name : ∀ j, fields.lookup ("name" : Text) = some j → ∃ t, j.text? = some t
  sets : ∀ name ∈ ["purposes", "legIntPurposes", "features", "specialFeatures"],
    ∀ j, fields.lookup (name : Text) = some j →
      ∃ items, j = .array items ∧ ∀ item ∈ items, ReadsInt item

structure Usable (payload : Json) : Prop where
  vendors : ∃ entries, payload.get? "vendors" = some (.object entries) ∧
    ∀ e ∈ entries, ∃ fields, e.2 = .object fields ∧ UsableEntry e.1 fields
  version : ∀ j, payload.get? "vendorListVersion" = some j → ReadsInt j
  updated : ∀ j, payload.get? "lastUpdated" = some j →
    j.isFalsy = true ∨ ∃ time, readMoment j = .value time

structure Describes (key : Text) (fields : Json.Fields) (info : Vendor) : Prop where
  id : HasId (key, .object fields) info.id
  name : (fields.lookup ("name" : Text) = none ∧ info.name = []) ∨
    ∃ j, fields.lookup ("name" : Text) = some j ∧ j.text? = some info.name
  purposes : ∀ p, p ∈ info.purposes ↔ Contains fields "purposes" p
  legitimateInterests : ∀ p, p ∈ info.legitimateInterests ↔ Contains fields "legIntPurposes" p
  features : ∀ p, p ∈ info.features ↔ Contains fields "features" p
  specialFeatures : ∀ p, p ∈ info.specialFeatures ↔ Contains fields "specialFeatures" p

theorem hasId_object_iff :
    HasId (key, .object fields) v ↔
      readInt ((fields.lookup ("id" : Text)).getD (.ofText key)) = .value v := by
  constructor
  · rintro ⟨_, heq, hv⟩
    cases heq
    exact hv
  · intro hv
    exact ⟨fields, rfl, hv⟩

theorem exists_readSet_iff :
    (∃ ids, readSet fields name part = .value ids) ↔
      ∀ j, fields.lookup (name : Text) = some j →
        ∃ items, j = .array items ∧ ∀ item ∈ items, ReadsInt item := by
  unfold readSet
  cases fields.lookup (name : Text) with
  | none => exact ⟨fun _ => nofun, fun _ => ⟨[], rfl⟩⟩
  | some j =>
    simp only [Reading.under_eq_value_iff, Option.some.injEq, forall_eq']
    exact exists_readIds_iff

theorem mem_of_readSet (h : readSet fields name part = .value ids) :
    p ∈ ids ↔ Contains fields name p := by
  unfold readSet at h
  unfold Contains
  cases hj : fields.lookup (name : Text) with
  | none =>
    rw [hj] at h
    cases h
    exact ⟨nofun, nofun⟩
  | some j =>
    simp only [hj, Reading.under_eq_value_iff] at h
    simp only [Option.some.injEq]
    exact mem_of_readIds h

theorem readVendor_eq_value_iff :
    readVendor key fields = .value info ↔
      (HasId (key, .object fields) info.id ∧ 0 < info.id) ∧
        field fields "name" readText (some []) = .value info.name ∧
        readSet fields "purposes" "purposes" = .value info.purposes ∧
        readSet fields "legIntPurposes" "legitimate_interests" = .value info.legitimateInterests ∧
        readSet fields "features" "features" = .value info.features ∧
        readSet fields "specialFeatures" "special_features" = .value info.specialFeatures := by
  simp only [readVendor, Reading.apply_eq_value_iff, Reading.fmap_eq_value_iff,
    Reading.under_eq_value_iff, readIntAbove_eq_value_iff, hasId_object_iff]
  constructor
  · rintro ⟨_, _, ⟨_, _, ⟨_, _, ⟨_, _, ⟨_, _, ⟨_, hid, rfl⟩, hname, rfl⟩, hpurposes, rfl⟩,
      hinterests, rfl⟩, hfeatures, rfl⟩, hspecial, rfl⟩
    exact ⟨hid, hname, hpurposes, hinterests, hfeatures, hspecial⟩
  · rintro ⟨hid, hname, hpurposes, hinterests, hfeatures, hspecial⟩
    exact ⟨_, _, ⟨_, _, ⟨_, _, ⟨_, _, ⟨_, _, ⟨_, hid, rfl⟩, hname, rfl⟩, hpurposes, rfl⟩,
      hinterests, rfl⟩, hfeatures, rfl⟩, hspecial, rfl⟩

theorem exists_name_iff :
    (∃ t, field fields "name" readText (some []) = .value t) ↔
      ∀ j, fields.lookup ("name" : Text) = some j → ∃ t, j.text? = some t := by
  simp only [field_eq_value_iff, readText_eq_value_iff]
  cases fields.lookup ("name" : Text) <;> simp

theorem exists_readVendor_iff :
    (∃ info, readVendor key fields = .value info) ↔ UsableEntry key fields := by
  constructor
  · rintro ⟨info, h⟩
    obtain ⟨hid, hname, hpurposes, hinterests, hfeatures, hspecial⟩ := readVendor_eq_value_iff.mp h
    refine ⟨⟨_, hid⟩, exists_name_iff.mp ⟨_, hname⟩, ?_⟩
    simp only [List.forall_mem_cons]
    exact ⟨exists_readSet_iff.mp ⟨_, hpurposes⟩, exists_readSet_iff.mp ⟨_, hinterests⟩,
      exists_readSet_iff.mp ⟨_, hfeatures⟩, exists_readSet_iff.mp ⟨_, hspecial⟩, nofun⟩
  · rintro ⟨⟨v, hid⟩, hname, hsets⟩
    simp only [List.forall_mem_cons] at hsets
    obtain ⟨hpurposes, hinterests, hfeatures, hspecial, _⟩ := hsets
    obtain ⟨s, hs⟩ := exists_name_iff.mpr hname
    obtain ⟨ps, hps⟩ := exists_readSet_iff.mpr hpurposes
    obtain ⟨is, his⟩ := exists_readSet_iff.mpr hinterests
    obtain ⟨fs, hfs⟩ := exists_readSet_iff.mpr hfeatures
    obtain ⟨ss, hss⟩ := exists_readSet_iff.mpr hspecial
    exact ⟨⟨v, s, ps, is, fs, ss⟩, readVendor_eq_value_iff.mpr ⟨hid, hs, hps, his, hfs, hss⟩⟩

theorem describes_of_readVendor (h : readVendor key fields = .value info) :
    Describes key fields info := by
  obtain ⟨hid, hname, hpurposes, hinterests, hfeatures, hspecial⟩ := readVendor_eq_value_iff.mp h
  refine ⟨hid.1, ?_, ?_, ?_, ?_, ?_⟩
  · rcases field_eq_value_iff.mp hname with ⟨j, hj, hread⟩ | ⟨habsent, hempty⟩
    · exact .inr ⟨j, hj, readText_eq_value_iff.mp hread⟩
    · exact .inl ⟨habsent, (Option.some.inj hempty).symm⟩
  · exact fun p => mem_of_readSet hpurposes
  · exact fun p => mem_of_readSet hinterests
  · exact fun p => mem_of_readSet hfeatures
  · exact fun p => mem_of_readSet hspecial

theorem readVendors_cons_eq_ok_iff :
    readVendors read (e :: rest) = .ok m ↔
      ∃ fields info, e = (e.1, .object fields) ∧ readVendor e.1 fields = .value info ∧
        readVendors (read.put info.id info) rest = .ok m := by
  obtain ⟨key, j⟩ := e
  cases j with
  | object fields =>
    rw [readVendors]
    cases hinfo : readVendor key fields <;> simp [hinfo]
  | _ => simp [readVendors]

theorem exists_readVendors_iff :
    (∃ m, readVendors read entries = .ok m) ↔
      ∀ e ∈ entries, ∃ fields, e.2 = .object fields ∧ UsableEntry e.1 fields := by
  induction entries generalizing read with
  | nil => exact ⟨fun _ => nofun, fun _ => ⟨read, rfl⟩⟩
  | cons e rest ih =>
    simp only [readVendors_cons_eq_ok_iff, List.forall_mem_cons]
    constructor
    · rintro ⟨m, fields, info, he, hinfo, hm⟩
      have husable : UsableEntry e.1 fields := exists_readVendor_iff.mp ⟨info, hinfo⟩
      exact ⟨⟨fields, congrArg Prod.snd he, husable⟩, ih.mp ⟨m, hm⟩⟩
    · rintro ⟨⟨fields, he, husable⟩, hrest⟩
      obtain ⟨info, hinfo⟩ := exists_readVendor_iff.mpr husable
      obtain ⟨m, hm⟩ : ∃ m, readVendors (read.put info.id info) rest = .ok m := ih.mpr hrest
      exact ⟨m, fields, info, Prod.ext rfl he, hinfo, hm⟩

theorem hasId_unique {w : Int} (hv : HasId e v) (hw : HasId e w) : v = w := by
  obtain ⟨fields, hfields, hv⟩ := hv
  obtain ⟨fields', hfields', hw⟩ := hw
  cases hfields.symm.trans hfields'
  cases hv.symm.trans hw
  rfl

theorem lastWithId_cons_iff :
    LastWithId (e :: rest) v key fields ↔
      LastWithId rest v key fields ∨
        e = (key, .object fields) ∧ HasId e v ∧ ∀ e' ∈ rest, ¬HasId e' v := by
  constructor
  · rintro ⟨before, after, hsplit, hid, hafter⟩
    cases before with
    | nil =>
      obtain ⟨rfl, rfl⟩ := List.cons.inj hsplit
      exact .inr ⟨rfl, hid, hafter⟩
    | cons b before =>
      obtain ⟨rfl, rfl⟩ := List.cons.inj hsplit
      exact .inl ⟨before, after, rfl, hid, hafter⟩
  · rintro (⟨before, after, rfl, hid, hafter⟩ | ⟨rfl, hid, hafter⟩)
    · exact ⟨e :: before, after, rfl, hid, hafter⟩
    · exact ⟨[], rest, rfl, hid, hafter⟩

theorem exists_lastWithId_iff :
    (∃ key fields, LastWithId entries v key fields) ↔ ∃ e ∈ entries, HasId e v := by
  constructor
  · rintro ⟨key, fields, before, after, rfl, hid, _⟩
    exact ⟨_, List.mem_append_right before List.mem_cons_self, hid⟩
  · intro h
    induction entries with
    | nil => simp at h
    | cons e rest ih =>
      by_cases hrest : ∃ e' ∈ rest, HasId e' v
      · obtain ⟨key, fields, hlast⟩ := ih hrest
        exact ⟨key, fields, lastWithId_cons_iff.mpr (.inl hlast)⟩
      · have hnone : ∀ e' ∈ rest, ¬HasId e' v := fun e' he' hid => hrest ⟨e', he', hid⟩
        have hid : HasId e v := by
          obtain ⟨e', he', hid⟩ := h
          rcases List.mem_cons.mp he' with rfl | he'
          · exact hid
          · exact absurd hid (hnone e' he')
        obtain ⟨fields, hfields⟩ : ∃ fields, e.2 = .object fields := hid.imp fun _ h => h.1
        exact ⟨e.1, fields, lastWithId_cons_iff.mpr (.inr ⟨Prod.ext rfl hfields, hid, hnone⟩)⟩

theorem lookup_readVendors (h : readVendors read entries = .ok m) :
    m.lookup v = some info ↔
      (∃ key fields, LastWithId entries v key fields ∧ readVendor key fields = .value info) ∨
        (∀ e ∈ entries, ¬HasId e v) ∧ read.lookup v = some info := by
  -- What has been read of an id stands until a later entry has the same one.
  induction entries generalizing read with
  | nil =>
    cases h
    constructor
    · intro hread
      exact .inr ⟨nofun, hread⟩
    · rintro (⟨_, _, ⟨before, after, hsplit, _⟩, _⟩ | ⟨_, hread⟩)
      · cases before <;> cases hsplit
      · exact hread
  | cons e rest ih =>
    obtain ⟨fields, w, he, hw, hrest⟩ := readVendors_cons_eq_ok_iff.mp h
    have hid : HasId e w.id := he ▸ (readVendor_eq_value_iff.mp hw).1.1
    rw [ih hrest, OrderedMap.lookup_put]
    simp only [lastWithId_cons_iff, or_and_right, exists_or, List.forall_mem_cons]
    by_cases hv : v = w.id
    · subst hv
      have hhere : (∃ key fields, (e = (key, .object fields) ∧ HasId e w.id ∧
          ∀ e' ∈ rest, ¬HasId e' w.id) ∧ readVendor key fields = .value info) ↔
            (∀ e' ∈ rest, ¬HasId e' w.id) ∧ some w = some info := by
        constructor
        · rintro ⟨key, fields', ⟨heq, _, hnone⟩, hinfo⟩
          cases he.symm.trans heq
          cases hw.symm.trans hinfo
          exact ⟨hnone, rfl⟩
        · rintro ⟨hnone, heq⟩
          cases heq
          exact ⟨e.1, fields, ⟨he, hid, hnone⟩, hw⟩
      rw [hhere, if_pos BEq.rfl]
      simp [hid]
    · have hno : ¬HasId e v := fun h => hv (hasId_unique h hid)
      simp [hno, hv]

structure Keyed (m : OrderedMap Int Vendor) : Prop where
  nodup : m.keys.Nodup
  ids : ∀ q ∈ m, q.1 = q.2.id ∧ 0 < q.1

theorem Keyed.put (h : Keyed m) (hid : 0 < info.id) : Keyed (m.put info.id info) := by
  refine ⟨OrderedMap.nodup_keys_put h.nodup info.id info, fun q hq => ?_⟩
  rcases OrderedMap.mem_put hq with rfl | hq
  · exact ⟨rfl, hid⟩
  · exact h.ids q hq

theorem keyed_of_readVendors (hread : Keyed read) (h : readVendors read entries = .ok m) :
    Keyed m := by
  induction entries generalizing read with
  | nil =>
    cases h
    exact hread
  | cons e rest ih =>
    obtain ⟨fields, info, _, hinfo, hrest⟩ := readVendors_cons_eq_ok_iff.mp h
    have hid : 0 < info.id := (readVendor_eq_value_iff.mp hinfo).1.2
    exact ih (hread.put hid) hrest

theorem readVersion_eq_value_iff {given : Option Json} {n : Int} :
    readVersion given = .value n ↔
      (given = none ∧ n = 0) ∨ ∃ j, given = some j ∧ readInt j = .value n := by
  cases given with
  | none => simp [readVersion, eq_comm]
  | some j => simp [readVersion, Reading.under_eq_value_iff]

theorem exists_readVersion_iff {given : Option Json} :
    (∃ n, readVersion given = .value n) ↔ ∀ j, given = some j → ReadsInt j := by
  cases given <;> simp [readVersion_eq_value_iff, ReadsInt]

theorem readUpdated_eq_value_iff {given : Option Json} {updated : Option Moment} :
    readUpdated now given = .value updated ↔
      ((∀ j, given = some j → j.isFalsy = true) ∧ updated = some now) ∨
        ∃ j time, given = some j ∧ j.isFalsy = false ∧ readMoment j = .value time ∧
          updated = some time := by
  cases given with
  | none => simp [readUpdated, @eq_comm _ (some now)]
  | some j =>
    by_cases hj : j.isFalsy = true
    · simp [readUpdated, hj, @eq_comm _ (some now)]
    · simp [readUpdated, hj, Reading.under_eq_value_iff, Reading.map_eq_value_iff,
        @eq_comm _ _ updated]

theorem exists_readUpdated_iff {given : Option Json} :
    (∃ updated, readUpdated now given = .value updated) ↔
      ∀ j, given = some j → j.isFalsy = true ∨ ∃ time, readMoment j = .value time := by
  constructor
  · rintro ⟨updated, h⟩ j hj
    rcases readUpdated_eq_value_iff.mp h with ⟨hfalsy, _⟩ | ⟨j', time, hj', _, htime, _⟩
    · exact .inl (hfalsy j hj)
    · cases hj.symm.trans hj'
      exact .inr ⟨time, htime⟩
  · intro h
    by_cases hfalsy : ∀ j, given = some j → j.isFalsy = true
    · exact ⟨some now, readUpdated_eq_value_iff.mpr (.inl ⟨hfalsy, rfl⟩)⟩
    · obtain ⟨j, hj, htruthy⟩ : ∃ j, given = some j ∧ j.isFalsy = false := by simpa using hfalsy
      have htime : ∃ time, readMoment j = .value time := by
        apply (h j hj).resolve_left
        rw [htruthy]
        exact Bool.false_ne_true
      obtain ⟨time, htime⟩ := htime
      exact ⟨some time, readUpdated_eq_value_iff.mpr (.inr ⟨j, time, hj, htruthy, htime, rfl⟩)⟩

end Gvl

open Gvl Schema

/-- What a list has of a document whose vendors these are. -/
structure Renders (now : Moment) (payload : Json) (entries : List (Text × Json))
    (l : VendorList) : Prop where
  vendors : ∀ v key fields, LastWithId entries v key fields →
    ∃ info, l.get? v = some info ∧ info.id = v ∧ Describes key fields info
  nodup : l.vendors.keys.Nodup
  ids : ∀ q ∈ l.vendors, q.1 = q.2.id ∧ 0 < q.1
  lists : ∀ v, l.lists v = true ↔ ∃ e ∈ entries, HasId e v
  declares : ∀ v p, l.declares v p = true ↔ ∃ key fields, LastWithId entries v key fields ∧
    (Contains fields "purposes" p ∨ Contains fields "legIntPurposes" p)
  version : (payload.get? "vendorListVersion" = none ∧ l.version = 0) ∨
    ∃ j, payload.get? "vendorListVersion" = some j ∧ readInt j = .value l.version
  updated : ((∀ j, payload.get? "lastUpdated" = some j → j.isFalsy = true) ∧
      l.lastUpdated = some now) ∨
    ∃ j time, payload.get? "lastUpdated" = some j ∧ j.isFalsy = false ∧
      readMoment j = .value time ∧ l.lastUpdated = some time

variable {now : Moment} {payload : Json} {entries : Json.Fields} {l : VendorList}

theorem ofGvl_eq_ok_iff :
    ofGvl now payload = .ok l ↔ ∃ entries, payload.get? "vendors" = some (.object entries) ∧
      readVendors [] entries = .ok l.vendors ∧
      readUpdated now (payload.get? "lastUpdated") = .value l.lastUpdated ∧
      readVersion (payload.get? "vendorListVersion") = .value l.version := by
  unfold ofGvl
  cases payload.get? "vendors" with
  | none => simp
  | some j =>
    cases j with
    | object entries =>
      simp only [bind_eq_ok_iff, mapError_eq_ok_iff, Reading.toExcept_eq_ok_iff,
        Reading.apply_eq_value_iff, Reading.fmap_eq_value_iff, pure_eq_ok_iff]
      constructor
      · rintro ⟨m, hm, _, ⟨_, n, ⟨updated, hupdated, rfl⟩, hn, rfl⟩, rfl⟩
        exact ⟨entries, rfl, hm, hupdated, hn⟩
      · rintro ⟨_, heq, hm, hupdated, hn⟩
        cases heq
        exact ⟨_, hm, _, ⟨_, _, ⟨_, hupdated, rfl⟩, hn, rfl⟩, rfl⟩
    | _ => simp

theorem exists_ofGvl_iff : (∃ l, ofGvl now payload = .ok l) ↔ Usable payload := by
  constructor
  · rintro ⟨l, h⟩
    obtain ⟨entries, hentries, hvendors, hupdated, hversion⟩ := ofGvl_eq_ok_iff.mp h
    exact ⟨⟨entries, hentries, exists_readVendors_iff.mp ⟨_, hvendors⟩⟩,
      exists_readVersion_iff.mp ⟨_, hversion⟩, exists_readUpdated_iff.mp ⟨_, hupdated⟩⟩
  · rintro ⟨⟨entries, hentries, husable⟩, hversion, hupdated⟩
    obtain ⟨m, hm⟩ : ∃ m, readVendors [] entries = .ok m := exists_readVendors_iff.mpr husable
    obtain ⟨n, hn⟩ := exists_readVersion_iff.mpr hversion
    obtain ⟨updated, hupdated⟩ := exists_readUpdated_iff.mpr hupdated
    exact ⟨⟨m, updated, n⟩, ofGvl_eq_ok_iff.mpr ⟨entries, hentries, hm, hupdated, hn⟩⟩

theorem get?_of_readVendors (h : readVendors [] entries = .ok l.vendors) {v : Int} {info : Vendor} :
    l.get? v = some info ↔
      ∃ key fields, LastWithId entries v key fields ∧ readVendor key fields = .value info := by
  rw [get?, lookup_readVendors h]
  exact or_iff_left fun hnone => nomatch hnone.2

theorem exists_readVendor_of_lastWithId (h : readVendors [] entries = .ok l.vendors) {v : Int}
    {key : Text} {fields : Json.Fields} (hlast : LastWithId entries v key fields) :
    ∃ info, readVendor key fields = .value info ∧ info.id = v := by
  obtain ⟨before, after, rfl, hid, _⟩ := hlast
  obtain ⟨fields', hfields, husable⟩ := exists_readVendors_iff.mp ⟨_, h⟩ (key, .object fields)
    (List.mem_append_right before List.mem_cons_self)
  cases hfields
  obtain ⟨info, hinfo⟩ := exists_readVendor_iff.mpr husable
  exact ⟨info, hinfo, hasId_unique (readVendor_eq_value_iff.mp hinfo).1.1 hid⟩

theorem renders_of_ofGvl (hentries : payload.get? "vendors" = some (.object entries))
    (h : ofGvl now payload = .ok l) : Renders now payload entries l := by
  obtain ⟨entries', hentries', hvendors, hupdated, hversion⟩ := ofGvl_eq_ok_iff.mp h
  cases hentries.symm.trans hentries'
  have hempty : Keyed [] := ⟨List.nodup_nil, fun q hq => nomatch hq⟩
  have hkeyed : Keyed l.vendors := keyed_of_readVendors hempty hvendors
  have hget : ∀ v key fields, LastWithId entries v key fields →
      ∃ info, l.get? v = some info ∧ info.id = v ∧ Describes key fields info := by
    intro v key fields hlast
    obtain ⟨info, hinfo, hid⟩ := exists_readVendor_of_lastWithId hvendors hlast
    exact ⟨info, (get?_of_readVendors hvendors).mpr ⟨key, fields, hlast, hinfo⟩, hid,
      describes_of_readVendor hinfo⟩
  refine ⟨hget, hkeyed.nodup, hkeyed.ids, ?_, ?_, readVersion_eq_value_iff.mp hversion,
    readUpdated_eq_value_iff.mp hupdated⟩
  · intro v
    rw [lists_iff, ← exists_lastWithId_iff]
    constructor
    · rintro ⟨info, hinfo⟩
      obtain ⟨key, fields, hlast, _⟩ := (get?_of_readVendors hvendors).mp hinfo
      exact ⟨key, fields, hlast⟩
    · rintro ⟨key, fields, hlast⟩
      obtain ⟨info, hinfo, _⟩ := hget v key fields hlast
      exact ⟨info, hinfo⟩
  · intro v p
    rw [declares_iff]
    constructor
    · rintro ⟨info, hinfo, hp⟩
      obtain ⟨key, fields, hlast, hread⟩ := (get?_of_readVendors hvendors).mp hinfo
      have hdescribes := describes_of_readVendor hread
      rw [hdescribes.purposes, hdescribes.legitimateInterests] at hp
      exact ⟨key, fields, hlast, hp⟩
    · rintro ⟨key, fields, hlast, hp⟩
      obtain ⟨info, hinfo, _, hdescribes⟩ := hget v key fields hlast
      rw [← hdescribes.purposes, ← hdescribes.legitimateInterests] at hp
      exact ⟨info, hinfo, hp⟩

/-- A document is read as a whole or not at all. Of the entries with one id the last one counts, and
each entry that cannot be read spoils the document. -/
theorem ofGvl_all_or_nothing (now : Moment) (payload : Json) :
    ((∃ l, ofGvl now payload = .ok l) ↔ Usable payload) ∧
      (∀ l, ofGvl now payload = .ok l → ∃ entries,
        payload.get? "vendors" = some (.object entries) ∧ Renders now payload entries l) ∧
      (¬Usable payload → ∃ e, ofGvl now payload = .error e) := by
  refine ⟨exists_ofGvl_iff, ?_, ?_⟩
  · intro l h
    obtain ⟨entries, hentries, _⟩ := ofGvl_eq_ok_iff.mp h
    exact ⟨entries, hentries, renders_of_ofGvl hentries h⟩
  · intro hunusable
    cases h : ofGvl now payload with
    | ok l => exact absurd (exists_ofGvl_iff.mp ⟨l, h⟩) hunusable
    | error e => exact ⟨e, rfl⟩

/-- A key and a field may spell one id in two ways. -/
example :
    let payload : Json := .object [("vendors", .object [
      ("07", .object [("purposes", .array [.int 1])]),
      ("8", .object [("id", .string "7.0"), ("purposes", .array [])])])]
    (ofGvl ⟨0, some .utc⟩ payload).toOption.map (·.vendors) =
      some [(7, { id := 7, name := [] })] := by
  decide +kernel

/-- A broken name spoils nothing, nor does a broken key beside an id. -/
example :
    let broken : Text := [.surrogate 0]
    let payload (entry : Json.Fields) : Json := .object [("vendors", .object [
      (broken, .object (("name", .brokenString broken) :: entry))])]
    (ofGvl ⟨0, some .utc⟩ (payload [("id", .int 1)])).toOption.map (·.vendors) =
        some [(1, { id := 1, name := broken })] ∧
      (ofGvl ⟨0, some .utc⟩ (payload [])).toOption = none := by
  decide +kernel

end ConsentGate.VendorList
