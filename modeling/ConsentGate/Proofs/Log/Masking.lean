import ConsentGate.Proofs.Log.Redaction

namespace ConsentGate

namespace Json

/-- A value without what is inside it. -/
inductive Node where
  | object (keys : List Text)
  | array (length : Nat)
  | scalar (j : Json)

def node : Json → Node
  | object fields => .object (OrderedMap.keys fields)
  | array items => .array items.length
  | j => .scalar j

def node? (j : Json) (path : List Step) : Option Node := (j.at? path).map node

end Json

namespace Redaction

variable {j : Json} {s : Json.Step} {path : List Json.Step} {levels : Nat}

/-- The second value is the first with whole values hidden: on each way down the one under the
first credential's name, if that stands within the topmost levels. -/
structure Masked (levels : Nat) (j shown : Json) : Prop where
  kept : ∀ path, (∀ s ∈ path.take levels, ¬Secret s) → shown.node? path = j.node? path
  hidden : ∀ path s, (∀ t ∈ path, ¬Secret t) → path.length < levels → Secret s →
    shown.at? (path ++ [s]) = (j.at? (path ++ [s])).map fun _ => redacted
  nothingElse : ∀ path node, shown.node? path = some node → ∃ old, j.node? path = some old ∧
    (node = old ∨ node = redacted.node ∧ ∃ s ∈ path.getLast?, Secret s)

theorem node_redactWithin (levels : Nat) (j : Json) : (redactWithin levels j).node = j.node := by
  cases levels <;> cases j <;>
    simp [redactWithin, Json.node, OrderedMap.keys, Function.comp_def]

theorem child?_redactWithin_of_secret (h : Secret s) :
    (redactWithin (levels + 1) j).child? s = (j.child? s).map fun _ => redacted := by
  cases s with
  | item i => exact h.elim
  | field i key =>
    have hkey : isSensitive key = true := isSensitive_iff.mpr h
    rw [child?_field_redactWithin]
    simp only [if_pos hkey]

theorem at?_redactWithin_of_secret (h : ∀ t ∈ path, ¬Secret t) (hlevels : path.length < levels)
    (hs : Secret s) :
    (redactWithin levels j).at? (path ++ [s]) =
      (j.at? (path ++ [s])).map fun _ => redacted := by
  have hpath : ∀ t ∈ path.take levels, ¬Secret t := fun t ht => h t (List.mem_of_mem_take ht)
  obtain ⟨left, rfl⟩ := Nat.exists_eq_add_of_lt hlevels
  have hleft : path.length + left + 1 - path.length = left + 1 := by omega
  rw [Json.at?_append, Json.at?_append, at?_redactWithin hpath, hleft, Option.bind_map,
    Option.map_bind]
  congr 1
  funext v
  simp only [Function.comp_apply, Json.at?_singleton]
  exact child?_redactWithin_of_secret hs

theorem eq_nil_of_at?_redacted {v : Json} (h : redacted.at? path = some v) : path = [] := by
  cases path with
  | nil => rfl
  | cons s path => cases s <;> exact nomatch h

/-- Whatever is shown at a place stood there before, or hides what did. -/
theorem exists_at?_of_redactWithin {v : Json} (h : (redactWithin levels j).at? path = some v) :
    ∃ old, j.at? path = some old ∧
      (v.node = old.node ∨ v = redacted ∧ ∃ s ∈ path.getLast?, Secret s) := by
  induction path generalizing levels j with
  | nil =>
    obtain rfl := Option.some.inj h
    exact ⟨j, rfl, .inl (node_redactWithin levels j)⟩
  | cons s path ih =>
    cases levels with
    | zero => exact ⟨v, h, .inl rfl⟩
    | succ levels =>
      rw [Json.at?_cons] at h
      by_cases hs : Secret s
      · -- Nothing stands inside what is hidden, so the way ends here.
        rw [child?_redactWithin_of_secret hs, Option.bind_map] at h
        obtain ⟨old, hold, hv⟩ := Option.bind_eq_some_iff.mp h
        obtain rfl := eq_nil_of_at?_redacted hv
        obtain rfl := Option.some.inj hv
        exact ⟨old, Json.at?_singleton.trans hold, .inr ⟨rfl, s, rfl, hs⟩⟩
      · rw [child?_redactWithin hs, Option.bind_map] at h
        obtain ⟨inner, hinner, hv⟩ := Option.bind_eq_some_iff.mp h
        obtain ⟨old, hold, hor⟩ := ih hv
        refine ⟨old, ?_, hor.imp_right fun ⟨hv, t, ht, hsecret⟩ => ⟨hv, t, ?_, hsecret⟩⟩
        · rw [Json.at?_cons, hinner]
          exact hold
        · rw [List.getLast?_cons, Option.mem_def.mp ht]
          rfl

theorem masked_redactWithin (levels : Nat) (j : Json) :
    Masked levels j (redactWithin levels j) where
  kept path hpath := by
    rw [Json.node?, Json.node?, at?_redactWithin hpath, Option.map_map]
    congr 1
    funext v
    exact node_redactWithin _ v
  hidden path s hpath hlevels hs := at?_redactWithin_of_secret hpath hlevels hs
  nothingElse path node h := by
    obtain ⟨v, hv, rfl⟩ := Option.map_eq_some_iff.mp h
    obtain ⟨old, hold, hor⟩ := exists_at?_of_redactWithin hv
    refine ⟨old.node, Option.map_eq_some_iff.mpr ⟨old, hold, rfl⟩, hor.imp_right ?_⟩
    rintro ⟨rfl, hlast⟩
    exact ⟨rfl, hlast⟩

theorem redactWithin_idem (levels : Nat) (j : Json) :
    redactWithin levels (redactWithin levels j) = redactWithin levels j := by
  induction levels generalizing j with
  | zero => rfl
  | succ levels ih =>
    cases j with
    | object fields =>
      simp only [redactWithin, List.map_map]
      congr 1
      apply List.map_congr_left
      rintro ⟨key, value⟩ _
      by_cases hkey : isSensitive key = true <;> simp [hkey, ih]
    | array items => simp [redactWithin, ih]
    | _ => rfl

/-- Redaction hides whole values under credentials' names and changes nothing else, and a second
one finds nothing to hide, however many levels it goes through. -/
theorem redaction_changes_nothing_else (event : Json.Fields) :
    Masked levelLimit (.object event) (redact (.object event)) ∧
      redact (redact (.object event)) = redact (.object event) ∧
      ∀ levels j, redactWithin levels (redactWithin levels j) = redactWithin levels j :=
  ⟨masked_redactWithin levelLimit _, redactWithin_idem levelLimit _, redactWithin_idem⟩

end Redaction

end ConsentGate
