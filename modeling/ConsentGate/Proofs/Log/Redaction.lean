import ConsentGate.Log.Redaction

namespace ConsentGate

namespace Json

/-- The value stands under the key, in an object that lies inside `depth` others and lists. -/
inductive Under : (j : Json) → (depth : Nat) → (key : Text) → (value : Json) → Prop where
  | here {fields : Fields} {key : Text} {value : Json} (h : (key, value) ∈ fields) :
    Under (.object fields) 0 key value
  | inField {fields : Fields} {name : Text} {j : Json} {depth : Nat} {key : Text} {value : Json}
    (h : (name, j) ∈ fields) (inner : Under j depth key value) :
    Under (.object fields) (depth + 1) key value
  | inItem {items : List Json} {j : Json} {depth : Nat} {key : Text} {value : Json}
    (h : j ∈ items) (inner : Under j depth key value) : Under (.array items) (depth + 1) key value

/-- A value inside as many lists. -/
def buried (j : Json) : Nat → Json
  | 0 => j
  | depth + 1 => .array [buried j depth]

theorem Under.buried {j value : Json} {depth : Nat} {key : Text} (h : j.Under depth key value)
    (lists : Nat) : (j.buried lists).Under (depth + lists) key value := by
  induction lists with
  | zero => exact h
  | succ lists ih => exact .inItem (List.mem_singleton_self _) ih

inductive Step where
  | item (i : Nat)
  | field (i : Nat) (key : Text)

def child? : Json → Step → Option Json
  | array items, .item i => items[i]?
  | object fields, .field i key => fields[i]?.bind fun (k, v) => if k = key then some v else none
  | _, _ => none

def at? (j : Json) (path : List Step) : Option Json := path.foldlM child? j

variable {j : Json} {fields : Fields} {i : Nat} {key : Text} {s : Step} {path rest : List Step}

theorem at?_cons : j.at? (s :: path) = (j.child? s).bind (·.at? path) := rfl

theorem at?_append : j.at? (path ++ rest) = (j.at? path).bind (·.at? rest) := List.foldlM_append

theorem at?_singleton : j.at? [s] = j.child? s := by
  rw [at?_cons]
  exact Option.bind_fun_some _

theorem child?_map_fields (f : Text → Json → Json) :
    (object (fields.map fun (k, v) => (k, f k v))).child? (.field i key) =
      ((object fields).child? (.field i key)).map (f key) := by
  simp only [child?, List.getElem?_map, Option.bind_map, Option.map_bind]
  congr 1
  funext ⟨k, v⟩
  by_cases hk : k = key <;> simp [hk]

end Json

namespace Redaction

variable {j value : Json} {depth levels lists : Nat} {key : Text} {α : Type} {part as : List α}
  {s : Json.Step} {path : List Json.Step}

/-- The name of something that must not be shown, in letters of any case. -/
def Credential (key : Text) : Prop :=
  ∃ part ∈ ["secret", "password", "token", "authorization", "private_key"],
    Text.ofString part <:+: Case.lowerText key

/-- The step leads to the value under a credential's name. -/
def Secret : Json.Step → Prop
  | .item _ => False
  | .field _ key => Credential key

theorem holds_iff [BEq α] [LawfulBEq α] : holds part as = true ↔ part <:+: as := by
  induction as with
  | nil => rw [holds, List.isEmpty_iff, List.infix_nil]
  | cons a as ih =>
    rw [holds, Bool.or_eq_true, ih, List.isPrefixOf_iff_prefix, List.infix_cons_iff]

theorem isSensitive_iff : isSensitive key = true ↔ Credential key := by
  have hparts : sensitiveParts =
    ["secret", "password", "token", "authorization", "private_key"].map Text.ofString := rfl
  simp only [isSensitive, hparts, Credential, List.any_map, List.any_eq_true, Function.comp_apply,
    holds_iff]

theorem not_under_redacted : ¬redacted.Under depth key value := nofun

theorem eq_redacted_of_under (h : (redactWithin levels j).Under depth key value)
    (hkey : isSensitive key = true) (hdepth : depth < levels) : value = redacted := by
  induction levels generalizing j depth with
  | zero => exact absurd hdepth depth.not_lt_zero
  | succ levels ih =>
    cases j with
    | object fields =>
      rw [redactWithin] at h
      cases h with
      | here h =>
        obtain ⟨⟨k, v⟩, _, hv⟩ := List.mem_map.mp h
        obtain ⟨rfl, rfl⟩ := Prod.mk.inj hv
        exact if_pos hkey
      | inField h inner =>
        obtain ⟨⟨k, v⟩, _, hv⟩ := List.mem_map.mp h
        obtain ⟨_, rfl⟩ := Prod.mk.inj hv
        split at inner
        · exact absurd inner not_under_redacted
        · exact ih inner (Nat.lt_of_succ_lt_succ hdepth)
    | array items =>
      rw [redactWithin] at h
      cases h with
      | inItem h inner =>
        obtain ⟨item, _, rfl⟩ := List.mem_map.mp h
        exact ih inner (Nat.lt_of_succ_lt_succ hdepth)
    | _ => exact nomatch h

theorem redactWithin_buried (h : levels ≤ lists) :
    redactWithin levels (j.buried lists) = j.buried lists := by
  induction levels generalizing lists with
  | zero => rfl
  | succ levels ih =>
    obtain ⟨lists, rfl⟩ := Nat.exists_eq_add_of_le' (Nat.le_of_add_left_le h)
    rw [Json.buried, redactWithin, List.map_singleton, ih (Nat.le_of_succ_le_succ h)]

theorem under_redact_of_buried (h : j.Under depth key value) (hlists : 10 ≤ lists) :
    (redact (.object [("a", j.buried lists)])).Under (depth + lists + 1) key value := by
  have hplain : isSensitive "a" = false := by decide
  have hkept : redact (.object [("a", j.buried lists)]) = .object [("a", j.buried lists)] := by
    simp only [redact, levelLimit, redactWithin, List.map_singleton, hplain, Bool.false_eq_true,
      ↓reduceIte, redactWithin_buried hlists]
  rw [hkept]
  exact .inField (List.mem_singleton_self _) (h.buried lists)

theorem under_password (value : Json) :
    (Json.object [("password", value)]).Under 0 "password" value :=
  .here (List.mem_singleton_self _)

theorem credential_password : Credential "password" := isSensitive_iff.mp (by decide)

theorem child?_field_redactWithin (j : Json) (i : Nat) (key : Text) :
    (redactWithin (levels + 1) j).child? (.field i key) =
      (j.child? (.field i key)).map fun v =>
        if isSensitive key then redacted else redactWithin levels v := by
  cases j with
  | object fields =>
    rw [redactWithin]
    exact Json.child?_map_fields fun k v =>
      if isSensitive k then redacted else redactWithin levels v
  | _ => rfl

theorem child?_redactWithin (h : ¬Secret s) :
    (redactWithin (levels + 1) j).child? s = (j.child? s).map (redactWithin levels) := by
  cases s with
  | item i => cases j <;> simp [redactWithin, Json.child?]
  | field i key =>
    have hkey : ¬isSensitive key = true := mt isSensitive_iff.mp h
    rw [child?_field_redactWithin]
    simp only [if_neg hkey]

theorem at?_redactWithin (h : ∀ s ∈ path.take levels, ¬Secret s) :
    (redactWithin levels j).at? path =
      (j.at? path).map (redactWithin (levels - path.length)) := by
  -- Each step down takes one level, up to the depth from which all is passed through.
  induction path generalizing levels j with
  | nil => rfl
  | cons s path ih =>
    cases levels with
    | zero =>
      have hid : redactWithin 0 = id := rfl
      simp [hid]
    | succ levels =>
      rw [List.take_succ_cons, List.forall_mem_cons] at h
      rw [Json.at?_cons, Json.at?_cons, child?_redactWithin h.1, Option.bind_map, Option.map_bind,
        List.length_cons, Nat.add_sub_add_right]
      congr 1
      funext v
      exact ih h.2

theorem at?_redactWithin_of_le (hlevels : levels ≤ path.length)
    (h : ∀ s ∈ path.take levels, ¬Secret s) : (redactWithin levels j).at? path = j.at? path := by
  have hid : redactWithin 0 = id := rfl
  rw [at?_redactWithin h, Nat.sub_eq_zero_of_le hlevels, hid, Option.map_id]
  rfl

theorem hidden_iff :
    (∀ (event : Json.Fields) (key : Text) (value : Json),
      (redact (.object event)).Under depth key value → Credential key → value = redacted) ↔
      depth ≤ 10 := by
  constructor
  · intro h
    refine Nat.le_of_not_lt fun hdepth => ?_
    obtain ⟨lists, rfl⟩ := Nat.exists_eq_add_of_le' hdepth
    have hunder := under_redact_of_buried (under_password .null) (Nat.le_add_left 10 lists)
    rw [Nat.zero_add] at hunder
    exact nomatch h _ _ _ hunder credential_password
  · intro hdepth event key value hunder hkey
    exact eq_redacted_of_under hunder (isSensitive_iff.mpr hkey) (Nat.lt_succ_of_le hdepth)

/-- Credentials are hidden in objects inside at most ten others and lists, and in no others: behind
eleven steps, none of them to a credential, a value is passed through as it is. -/
theorem credentials_hidden_iff :
    (∀ depth : Nat,
      (∀ (event : Json.Fields) (key : Text) (value : Json),
        (redact (.object event)).Under depth key value → Credential key → value = redacted) ↔
        depth ≤ 10) ∧
    ∀ (event : Json.Fields) (path : List Json.Step), 11 ≤ path.length →
      (∀ s ∈ path.take 11, ¬Secret s) →
        (redact (.object event)).at? path = (Json.object event).at? path :=
  ⟨fun _ => hidden_iff, fun _ _ hlength => at?_redactWithin_of_le hlength⟩

/-- A password behind ten lists is shown. -/
theorem password_shown_behind_lists :
    let event : Json.Fields := [("a", (Json.object [("password", .string "x")]).buried 10)]
    ¬∀ depth key value, (redact (.object event)).Under depth key value → Credential key →
      value = redacted := by
  intro event h
  have hshown : (redact (.object event)).Under 11 "password" (.string "x") :=
    under_redact_of_buried (under_password (.string "x")) (Nat.le_refl 10)
  have hvalue := h 11 "password" (.string "x") hshown credential_password
  simp [redacted] at hvalue

end Redaction

end ConsentGate
