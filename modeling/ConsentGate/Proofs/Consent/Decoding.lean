import ConsentGate.Proofs.Consent.Keys

namespace ConsentGate

open Schema

namespace Consent

variable {ids : List Json} {m : OrderedMap Int Bool} {i : Int}

theorem readEntry_true {j : Json} {p : Int × Bool} :
    readEntry readBool (j, .bool true) = .value p ↔ readInt j = .value p.1 ∧ p.2 = true := by
  obtain ⟨n, b⟩ := p
  simp only [readEntry, Reading.seq_eq_value_iff, Reading.map_eq_value_iff,
    Reading.under_eq_value_iff, readBool, Reading.value.injEq]
  constructor
  · rintro ⟨_, _, ⟨k, hk, rfl⟩, rfl, he⟩
    cases he
    exact ⟨hk, rfl⟩
  · rintro ⟨hn, rfl⟩
    exact ⟨_, _, ⟨n, hn, rfl⟩, rfl, rfl⟩

theorem granting_eq_value_iff :
    granting ids = .value m ↔
      ∃ pairs, Reading.each (readEntry readBool) (ids.map (·, .bool true)) = .value pairs ∧
        OrderedMap.ofPairs pairs = m := Reading.map_eq_value_iff

theorem exists_granting_iff : (∃ m, granting ids = .value m) ↔ ∀ j ∈ ids, ReadsInt j := by
  have hentries : (∃ m, granting ids = .value m) ↔
      ∃ pairs, Reading.each (readEntry readBool) (ids.map (·, .bool true)) = .value pairs := by
    simp only [granting_eq_value_iff]
    constructor
    · rintro ⟨_, pairs, hpairs, _⟩
      exact ⟨pairs, hpairs⟩
    · rintro ⟨pairs, hpairs⟩
      exact ⟨_, pairs, hpairs, rfl⟩
  rw [hentries, Reading.exists_each_eq_value_iff, List.forall_mem_map]
  simp only [readEntry_true]
  constructor
  · intro h j hj
    obtain ⟨p, hp, _⟩ := h j hj
    exact ⟨p.1, hp⟩
  · intro h j hj
    obtain ⟨n, hn⟩ := h j hj
    exact ⟨(n, true), hn, rfl⟩

theorem lookup_eq_true_iff {pairs : List (Int × Bool)} (h : ∀ p ∈ pairs, p.2 = true) :
    pairs.lookup i = some true ↔ (i, true) ∈ pairs := by
  constructor
  · exact OrderedMap.mem_of_lookup
  · intro hi
    cases hb : pairs.lookup i with
    | none =>
      have hne := List.lookup_eq_none_iff.mp hb (i, true) hi
      simp at hne
    | some b => exact congrArg some (h (i, b) (OrderedMap.mem_of_lookup hb))

theorem lookup_granting (h : granting ids = .value m) :
    m.lookup i = some true ↔ ∃ j ∈ ids, readInt j = .value i := by
  obtain ⟨pairs, hpairs, rfl⟩ := granting_eq_value_iff.mp h
  have hmem : ∀ p, p ∈ pairs ↔ ∃ j ∈ ids, readInt j = .value p.1 ∧ p.2 = true := by
    intro p
    rw [Reading.mem_of_each_eq_value hpairs]
    simp [readEntry_true]
  rw [OrderedMap.lookup_ofPairs, lookup_eq_true_iff, List.mem_reverse, hmem]
  · simp
  · intro p hp
    obtain ⟨_, _, _, hb⟩ := (hmem p).mp (List.mem_reverse.mp hp)
    exact hb

end Consent

namespace Decoded

variable {d : Decoded} {f : TcfModel.Field} {keys : List Json}

/-- What stands under an attribute, if the decoder's answer has it. -/
def attribute? : Decoded → TcfModel.Field → Option Json
  | model m, f => some (.ints (m.get f))
  | stranger _, _ => none
  | loose attributes, f => attributes.lookup (f.name : Text)

def elements (d : Decoded) (f : TcfModel.Field) : List Json :=
  ((d.attribute? f).bind fun j => (items j).toOption).getD []

def IsIdList : Option Json → Prop
  | some (.array js) => ∀ j ∈ js, ReadsInt j
  | _ => False

/-- Taken for ids without being a list of integers: a list in which what is no integer repeats an
integer before it, an object whose names are integers, a text of digits. -/
def PassesForIds : Option Json → Prop
  | some (.array js) => ReadOrRepeat js ∧ ∃ j ∈ js, ¬ReadsInt j
  | some (.object fields) => ∀ field ∈ fields, ReadsInt (.ofText field.1)
  | some (.string s) => ∀ c ∈ s.toList, c.isDigit = true
  | some (.brokenString t) => ∀ p ∈ t, ∃ c, p = .scalar c ∧ c.isDigit = true
  | _ => False

def YieldsIds (a : Option Json) : Prop := IsIdList a ∨ PassesForIds a

theorem yieldsIds_array {js : List Json} : YieldsIds (some (.array js)) ↔ ReadOrRepeat js := by
  simp only [YieldsIds, IsIdList, PassesForIds]
  by_cases hread : ∀ j ∈ js, ReadsInt j
  · exact iff_of_true (.inl hread) (readOrRepeat_of_forall hread)
  · have hunread : ∃ j ∈ js, ¬ReadsInt j := by simpa using hread
    simp only [hread, hunread, and_true, false_or]

theorem readOrRepeat_texts {α : Type} (as : List α) {g : α → Json}
    (hg : ∀ a, ∃ t, (g a).text? = some t) :
    ReadOrRepeat (as.map g) ↔ ∀ a ∈ as, ReadsInt (g a) := by
  rw [readOrRepeat_iff, List.forall_mem_map]
  intro j hj k hsame
  obtain ⟨a, _, rfl⟩ := List.mem_map.mp hj
  obtain ⟨t, ht⟩ := hg a
  exact eq_of_sameKey_of_text? ht hsame

theorem readsInt_ofText_iff {p : CodePoint} :
    ReadsInt (.ofText [p]) ↔ ∃ c, p = .scalar c ∧ c.isDigit = true := by
  cases p with
  | scalar c =>
    have htext : Json.ofText [.scalar c] = .string c.toString := by simp [Json.ofText, Text.chars?]
    rw [htext, readsInt_toString_iff]
    simp
  | surrogate n => simp [Json.ofText, Text.chars?, ReadsInt, readInt, Reading.fault]

theorem readOrRepeat_items {j : Json} {js : List Json} (h : items j = .ok js) :
    ReadOrRepeat js ↔ YieldsIds (some j) := by
  cases j with
  | array js' =>
    cases h
    exact yieldsIds_array.symm
  | object fields =>
    cases h
    rw [readOrRepeat_texts fields fun field => ⟨field.1, Json.text?_ofText _⟩]
    simp only [YieldsIds, IsIdList, PassesForIds, false_or]
  | string s =>
    cases h
    rw [readOrRepeat_texts s.toList fun c => ⟨.ofString c.toString, rfl⟩]
    simp only [readsInt_toString_iff, YieldsIds, IsIdList, PassesForIds, false_or]
  | brokenString t =>
    cases h
    rw [readOrRepeat_texts t fun p => ⟨[p], Json.text?_ofText _⟩]
    simp only [readsInt_ofText_iff, YieldsIds, IsIdList, PassesForIds, false_or]
  | _ => cases h

theorem not_yieldsIds_of_items {j : Json} {e : DecodeFailure} (h : items j = .error e) :
    ¬YieldsIds (some j) := by
  cases j with
  | array js => cases h
  | object fields => cases h
  | string s => cases h
  | brokenString t => cases h
  | _ => simp [YieldsIds, IsIdList, PassesForIds]

theorem readsInt_of_mem_map_int {ids : IdSet} : ∀ k ∈ ids.map Json.int, ReadsInt k :=
  List.forall_mem_map.mpr fun n _ => ⟨n, rfl⟩

theorem yieldsIds_model {m : TcfModel} : YieldsIds ((model m).attribute? f) :=
  .inl readsInt_of_mem_map_int

theorem exists_idsOf_iff :
    (∃ keys, d.idsOf f = .ok keys ∧ ∀ k ∈ keys, ReadsInt k) ↔ YieldsIds (d.attribute? f) := by
  cases d with
  | model m => exact iff_of_true ⟨_, rfl, readsInt_of_mem_map_int⟩ yieldsIds_model
  | stranger kind => simp [idsOf, attribute?, YieldsIds, IsIdList, PassesForIds]
  | loose attributes =>
    simp only [idsOf, attribute?]
    cases hj : attributes.lookup (f.name : Text) with
    | none => simp [YieldsIds, IsIdList, PassesForIds]
    | some j =>
      cases hitems : items j with
      | error e => simp [not_yieldsIds_of_items hitems, bind, Except.bind, hitems]
      | ok js =>
        rw [← readOrRepeat_items hitems, ← exists_collect_iff]
        simp [bind, Except.bind, hitems]

theorem exists_mem_elements_model {m : TcfModel} {i : Int} :
    (∃ j ∈ (model m).elements f, readInt j = .value i) ↔ i ∈ m.get f := by
  have helements : (model m).elements f = (m.get f).map .int := rfl
  rw [helements]
  constructor
  · rintro ⟨j, hj, hread⟩
    obtain ⟨n, hn, rfl⟩ := List.mem_map.mp hj
    cases hread
    exact hn
  · intro hi
    exact ⟨.int i, List.mem_map_of_mem hi, rfl⟩

theorem represents_idsOf (h : d.idsOf f = .ok keys) : Represents keys (d.elements f) := by
  cases d with
  | model m =>
    cases h
    exact ⟨fun k hk => hk, fun j hj => ⟨j, hj, .inl rfl⟩⟩
  | stranger kind => cases h
  | loose attributes =>
    simp only [idsOf] at h
    simp only [elements, attribute?]
    cases hj : attributes.lookup (f.name : Text) with
    | none =>
      rw [hj] at h
      cases h
    | some j =>
      rw [hj] at h
      cases hitems : items j with
      | error e =>
        simp [bind, Except.bind, hitems] at h
      | ok js =>
        simp only [bind, Except.bind, hitems] at h
        obtain ⟨_, rfl⟩ := collect_eq_ok_iff.mp h
        simpa [hitems, Except.toOption] using represents_foldl_addKey js

theorem ids_eq_ok_iff {purposes vendors : List Json} :
    d.ids = .ok (purposes, vendors) ↔
      d.idsOf .purposes = .ok purposes ∧ d.idsOf .vendors = .ok vendors := by
  unfold ids
  cases hp : d.idsOf .purposes <;> cases hv : d.idsOf .vendors <;>
    simp [bind, Except.bind, pure, Except.pure]

end Decoded

end ConsentGate
