namespace ConsentGate

variable {κ ν : Type}

/-- A finite map that keeps its keys in the order in which they first came. -/
abbrev OrderedMap (κ ν : Type) := List (κ × ν)

namespace OrderedMap

variable [BEq κ]

/-- A key that is there keeps its place and takes the new value; a new key goes last. -/
def put (k : κ) (v : ν) : OrderedMap κ ν → OrderedMap κ ν
  | [] => [(k, v)]
  | (k', v') :: rest => if k' == k then (k', v) :: rest else (k', v') :: put k v rest

def ofPairs (pairs : List (κ × ν)) : OrderedMap κ ν :=
  pairs.foldl (fun m p => m.put p.1 p.2) []

def keys (m : OrderedMap κ ν) : List κ := m.map (·.1)

theorem lookup_put [LawfulBEq κ] (m : OrderedMap κ ν) (k k' : κ) (v : ν) :
    (m.put k v).lookup k' = if k' == k then some v else m.lookup k' := by
  induction m with
  | nil => by_cases h : k' == k <;> simp [put, List.lookup_cons, h]
  | cons p rest ih =>
    obtain ⟨j, w⟩ := p
    by_cases hj : j == k
    · obtain rfl := eq_of_beq hj
      by_cases h : k' == j <;> simp [put, List.lookup_cons, h]
    · by_cases h : k' == j
      · obtain rfl := eq_of_beq h
        simp [put, hj]
      · simp [put, hj, List.lookup_cons, h, ih]

theorem foldl_put_lookup [LawfulBEq κ] (pairs : List (κ × ν)) (m : OrderedMap κ ν) (k : κ) :
    (pairs.foldl (fun m p => m.put p.1 p.2) m).lookup k =
      (pairs.reverse.lookup k).or (m.lookup k) := by
  induction pairs generalizing m with
  | nil => simp
  | cons p rest ih =>
    obtain ⟨j, v⟩ := p
    rw [List.foldl_cons, ih, lookup_put, List.reverse_cons, List.lookup_append]
    by_cases h : k == j <;> cases rest.reverse.lookup k <;> simp [List.lookup_cons, h]

theorem mem_put {m : OrderedMap κ ν} {k : κ} {v : ν} {p : κ × ν} [LawfulBEq κ]
    (h : p ∈ m.put k v) : p = (k, v) ∨ p ∈ m := by
  induction m with
  | nil => exact .inl (List.mem_singleton.mp h)
  | cons q rest ih =>
    obtain ⟨j, w⟩ := q
    by_cases hj : j == k
    · obtain rfl := eq_of_beq hj
      rw [put, if_pos hj, List.mem_cons] at h
      exact h.imp_right (List.mem_cons_of_mem _)
    · rw [put, if_neg hj, List.mem_cons] at h
      rcases h with rfl | h
      · exact .inr List.mem_cons_self
      · exact (ih h).imp_right (List.mem_cons_of_mem _)

theorem mem_keys_put [LawfulBEq κ] {m : OrderedMap κ ν} {k k' : κ} {v : ν}
    (h : k' ∈ (m.put k v).keys) : k' = k ∨ k' ∈ m.keys := by
  obtain ⟨p, hp, rfl⟩ := List.mem_map.mp h
  rcases mem_put hp with rfl | hp
  · exact .inl rfl
  · exact .inr (List.mem_map_of_mem hp)

theorem nodup_keys_put [LawfulBEq κ] {m : OrderedMap κ ν} (h : m.keys.Nodup) (k : κ) (v : ν) :
    (m.put k v).keys.Nodup := by
  induction m with
  | nil => simp [put, keys]
  | cons q rest ih =>
    obtain ⟨j, w⟩ := q
    obtain ⟨hj, hrest⟩ := List.nodup_cons.mp h
    by_cases hk : j == k
    · rw [put, if_pos hk]
      exact h
    · rw [put, if_neg hk]
      refine List.nodup_cons.mpr ⟨fun hmem => ?_, ih hrest⟩
      rcases mem_keys_put hmem with rfl | hmem
      · exact hk BEq.rfl
      · exact hj hmem

theorem lookup_ofPairs [LawfulBEq κ] (pairs : List (κ × ν)) (k : κ) :
    (ofPairs pairs).lookup k = pairs.reverse.lookup k := by
  simp [ofPairs, foldl_put_lookup]

theorem mem_of_lookup [LawfulBEq κ] {m : OrderedMap κ ν} {k : κ} {v : ν} (h : m.lookup k = some v) :
    (k, v) ∈ m := by
  obtain ⟨before, after, rfl, -⟩ := List.lookup_eq_some_iff.mp h
  exact List.mem_append_right before List.mem_cons_self

end OrderedMap

end ConsentGate
