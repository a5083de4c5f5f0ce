import ConsentGate.IdSet

namespace ConsentGate

/-- The text that stands here, whole or broken. -/
def Json.text? : Json → Option Text
  | .string s => some (.ofString s)
  | .brokenString t => some t
  | _ => none

theorem Json.text?_ofText (t : Text) : (Json.ofText t).text? = some t := by
  unfold ofText
  cases h : t.chars? with
  | none => rfl
  | some cs =>
    rw [Text.eq_ofChars_of_chars? h, text?, Text.ofString, String.toList_ofList]

namespace Schema

variable {α β : Type} {fields : Json.Fields} {name : String} {a : α} {b : β} {j : Json}

theorem Reading.andThen_eq_value_iff {r : Reading α} {f : α → Reading β} :
    r.andThen f = .value b ↔ ∃ a, r = .value a ∧ f a = .value b := by
  cases r <;> simp [andThen]

theorem Reading.fmap_eq_value_iff {r : Reading α} {f : α → β} :
    f <$> r = .value b ↔ ∃ a, r = .value a ∧ f a = b := map_eq_value_iff

theorem Reading.apply_eq_value_iff {r : Reading α} {f : Reading (α → β)} :
    f <*> r = .value b ↔ ∃ g a, f = .value g ∧ r = .value a ∧ g a = b := seq_eq_value_iff

theorem Reading.toExcept_eq_ok_iff {r : Reading α} : r.toExcept = .ok a ↔ r = .value a := by
  cases r <;> simp [toExcept]

/-- Where an item stands shows only in the issues. -/
theorem Reading.eachFrom_eq_value_iff_each {read : α → Reading β} {i : Nat} {l : List α}
    {bs : List β} : eachFrom read i l = .value bs ↔ each read l = .value bs := by
  induction l generalizing i bs with
  | nil => rfl
  | cons a rest ih =>
    simp only [eachFrom, each, seq_eq_value_iff, map_eq_value_iff, under_eq_value_iff, ih]

theorem readText_eq_value_iff {t : Text} : readText j = .value t ↔ j.text? = some t := by
  cases j <;> simp [readText, Json.text?, Reading.fault]

theorem field_eq_value_iff {read : Json → Reading α} {default : Option α} :
    field fields name read default = .value a ↔
      (∃ j, fields.lookup (name : Text) = some j ∧ read j = .value a) ∨
        fields.lookup (name : Text) = none ∧ default = some a := by
  unfold field
  cases fields.lookup (name : Text) with
  | some j => simp [Reading.under_eq_value_iff]
  | none => cases default <;> simp

/-- What a reader sees to holds of the field, if the default has it too. -/
theorem holds_of_field {read : Json → Reading α} {default : Option α} {P : α → Prop}
    (h : field fields name read default = .value a) (hread : ∀ j a, read j = .value a → P a)
    (hdefault : ∀ a ∈ default, P a) : P a := by
  obtain ⟨j, -, hj⟩ | ⟨-, rfl⟩ := field_eq_value_iff.mp h
  · exact hread j a hj
  · exact hdefault a rfl

theorem record_eq_value_iff {read : Json.Fields → Reading α} :
    record name read j = .value a ↔ ∃ fields, j = .object fields ∧ read fields = .value a := by
  cases j <;> simp [record, Reading.fault]

def ReadsInt (j : Json) : Prop := ∃ i, readInt j = .value i

theorem readIntAbove_eq_value_iff {bound i : Int} :
    readIntAbove bound j = .value i ↔ readInt j = .value i ∧ bound < i := by
  rw [readIntAbove, Reading.andThen_eq_value_iff]
  constructor
  · rintro ⟨n, hn, hchecked⟩
    split at hchecked
    · next hbound =>
      cases hchecked
      exact ⟨hn, hbound⟩
    · cases hchecked
  · rintro ⟨hi, hbound⟩
    exact ⟨i, hi, if_pos hbound⟩

theorem readIntFrom_eq_value_iff {bound i : Int} :
    readIntFrom bound j = .value i ↔ readInt j = .value i ∧ bound ≤ i := by
  rw [readIntFrom, Reading.andThen_eq_value_iff]
  constructor
  · rintro ⟨n, hn, hchecked⟩
    split at hchecked
    · next hbound =>
      cases hchecked
      exact ⟨hn, hbound⟩
    · cases hchecked
  · rintro ⟨hi, hbound⟩
    exact ⟨i, hi, if_pos hbound⟩

theorem read_of_optional {read : Json → Reading α} (h : optional read j = .value (some a)) :
    read j = .value a := by
  cases j with
  | null => cases h
  | _ =>
    obtain ⟨a', ha', hsome⟩ := Reading.map_eq_value_iff.mp h
    rw [ha', Option.some.inj hsome]

theorem readIds_eq_value_iff {ids : IdSet} :
    IdSet.read j = .value ids ↔
      ∃ items is, j = .array items ∧ Reading.each readInt items = .value is ∧
        IdSet.ofList is = ids := by
  cases j <;>
    simp [IdSet.read, Reading.fault, Reading.map_eq_value_iff, Reading.eachFrom_eq_value_iff_each]

/-- Only a list reads as a set, and only one of integers. -/
theorem exists_readIds_iff :
    (∃ ids, IdSet.read j = .value ids) ↔
      ∃ items, j = .array items ∧ ∀ item ∈ items, ReadsInt item := by
  simp only [ReadsInt, readIds_eq_value_iff, ← Reading.exists_each_eq_value_iff]
  constructor
  · rintro ⟨_, items, is, hj, his, _⟩
    exact ⟨items, hj, is, his⟩
  · rintro ⟨items, hj, is, his⟩
    exact ⟨_, items, is, hj, his, rfl⟩

theorem mem_of_readIds {ids : IdSet} {i : Int} (h : IdSet.read j = .value ids) :
    i ∈ ids ↔ ∃ items, j = .array items ∧ ∃ item ∈ items, readInt item = .value i := by
  obtain ⟨items, is, rfl, his, rfl⟩ := readIds_eq_value_iff.mp h
  rw [IdSet.mem_ofList, Reading.mem_of_each_eq_value his]
  constructor
  · intro hread
    exact ⟨items, rfl, hread⟩
  · rintro ⟨items', hitems, hread⟩
    cases hitems
    exact hread

end Schema

end ConsentGate
