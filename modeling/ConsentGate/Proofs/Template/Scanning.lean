import ConsentGate.Template.Scan

namespace ConsentGate.Template

variable {t rest : Text} {m : Mark} {c : CodePoint}

theorem takeBrace_eq_iff {b : CodePoint} {taken : Bool} :
    takeBrace b t = (taken, rest) ↔
      t = List.replicate taken.toNat b ++ rest ∧ (taken = false → b ∉ rest.head?) := by
  cases t with
  | nil => cases taken <;> grind [takeBrace]
  | cons c t =>
    rw [takeBrace]
    split <;> cases taken <;> grind

theorem replicate_braces (b : CodePoint) (triple : Bool) :
    List.replicate (if triple then 3 else 2) b = b :: b :: List.replicate triple.toNat b := by
  cases triple <;> rfl

theorem Mark.text_append (m : Mark) (rest : Text) :
    m.text ++ rest = opening :: opening :: (List.replicate m.opensTriple.toNat opening ++
      (m.body ++ closing :: closing :: (List.replicate m.closesTriple.toNat closing ++ rest))) := by
  rw [Mark.text, replicate_braces, replicate_braces]
  simp only [List.cons_append, List.append_assoc]

theorem body_split {body : Text} (hbody : ∀ c ∈ body, isBrace c = false) (after : Text) :
    (body ++ closing :: after).takeWhile (!isBrace ·) = body ∧
      (body ++ closing :: after).dropWhile (!isBrace ·) = closing :: after := by
  have hplain : ∀ c ∈ body, (!isBrace c) = true := fun c hc => by rw [hbody c hc]; rfl
  rw [List.takeWhile_append_of_pos hplain, List.dropWhile_append_of_pos hplain,
    List.takeWhile_cons_of_neg (by decide), List.dropWhile_cons_of_neg (by decide)]
  exact ⟨List.append_nil _, rfl⟩

theorem opening_not_mem_head?_body {body : Text} (hbody : ∀ c ∈ body, isBrace c = false)
    (after : Text) : opening ∉ (body ++ closing :: after).head? := by
  intro hhead
  cases body with
  | nil => cases hhead
  | cons c cs =>
    cases hhead
    exact absurd (hbody opening List.mem_cons_self) (by decide)

theorem markAt_eq_some_iff :
    markAt t = some (m, rest) ↔
      t = m.text ++ rest ∧ (∀ c ∈ m.body, isBrace c = false) ∧
        (m.closesTriple = false → closing ∉ rest.head?) := by
  constructor
  · intro h
    unfold markAt at h
    split at h
    · next t =>
      obtain ⟨opens, t', ht⟩ : ∃ opens t', takeBrace opening t = (opens, t') := ⟨_, _, rfl⟩
      simp only [readMark, ht] at h
      split at h
      · next after hafter =>
        obtain ⟨closes, r, hr⟩ : ∃ closes r, takeBrace closing after = (closes, r) := ⟨_, _, rfl⟩
        simp only [hr, Option.some.injEq, Prod.mk.injEq] at h
        obtain ⟨rfl, rfl⟩ := h
        obtain ⟨rfl, -⟩ := takeBrace_eq_iff.mp ht
        obtain ⟨rfl, hend⟩ := takeBrace_eq_iff.mp hr
        refine ⟨?_, ?_, hend⟩
        · rw [Mark.text_append, ← hafter, List.takeWhile_append_dropWhile]
        · intro c hc
          have hplain := List.all_eq_true.mp List.all_takeWhile c hc
          rwa [Bool.not_eq_true'] at hplain
      · cases h
    · cases h
  · rintro ⟨rfl, hbody, hend⟩
    rw [Mark.text_append]
    generalize hr : List.replicate m.closesTriple.toNat closing ++ rest = after
    have hcloses : takeBrace closing after = (m.closesTriple, rest) :=
      takeBrace_eq_iff.mpr ⟨hr.symm, hend⟩
    have hopens : takeBrace opening (List.replicate m.opensTriple.toNat opening ++
        (m.body ++ closing :: closing :: after)) =
          (m.opensTriple, m.body ++ closing :: closing :: after) :=
      takeBrace_eq_iff.mpr ⟨rfl, fun _ => opening_not_mem_head?_body hbody _⟩
    obtain ⟨htake, hdrop⟩ := body_split hbody (closing :: after)
    simp only [markAt, readMark, hopens, htake, hdrop, hcloses]

/-- Four braces begin no mark: the third would belong to it, and the fourth ends its body. -/
theorem markAt_four_openings : markAt (opening :: opening :: opening :: opening :: t) = none := rfl

theorem markAt_eq_none (h : c = opening → opening ∉ t.head?) : markAt (c :: t) = none := by
  cases hread : markAt (c :: t) with
  | none => rfl
  | some read =>
    obtain ⟨htext, -⟩ := markAt_eq_some_iff.mp hread
    rw [Mark.text_append] at htext
    obtain ⟨rfl, rfl⟩ := List.cons_eq_cons.mp htext
    exact absurd rfl (h rfl)

/-- A brace before two opening ones takes their mark over. -/
theorem markAt_opening_cons (h : markAt t = some (m, rest)) (hm : m.opensTriple = false) :
    markAt (opening :: t) = some (⟨true, m.body, m.closesTriple⟩, rest) := by
  obtain ⟨rfl, hbody, hend⟩ := markAt_eq_some_iff.mp h
  refine markAt_eq_some_iff.mpr ⟨?_, hbody, hend⟩
  rw [Mark.text_append, Mark.text_append, hm]
  rfl

@[simp] theorem scan_nil : scan [] = [] := by rw [scan]

theorem scan_of_markAt (h : markAt t = some (m, rest)) : scan t = .mark m :: scan rest := by
  cases t with
  | nil => cases h
  | cons c t =>
    rw [scan]
    split
    · next m' rest' h' =>
      cases h.symm.trans h'
      rfl
    · next h' => cases h.symm.trans h'

theorem scan_of_not_markAt (h : markAt (c :: t) = none) : scan (c :: t) = .plain c :: scan t := by
  rw [scan]
  split
  · next h' => cases h.symm.trans h'
  · rfl

theorem scan_eq_mark_cons {pieces : List Piece} (h : scan t = .mark m :: pieces) :
    ∃ rest, markAt t = some (m, rest) ∧ scan rest = pieces := by
  cases t with
  | nil => cases scan_nil.symm.trans h
  | cons c t =>
    cases hread : markAt (c :: t) with
    | some read =>
      cases (scan_of_markAt hread).symm.trans h
      exact ⟨read.2, rfl, rfl⟩
    | none => cases (scan_of_not_markAt hread).symm.trans h

theorem scan_eq_plain_cons {pieces : List Piece} (h : scan t = .plain c :: pieces) :
    ∃ rest, t = c :: rest ∧ markAt t = none ∧ scan rest = pieces := by
  cases t with
  | nil => cases scan_nil.symm.trans h
  | cons c' t =>
    cases hread : markAt (c' :: t) with
    | some read => cases (scan_of_markAt hread).symm.trans h
    | none =>
      cases (scan_of_not_markAt hread).symm.trans h
      exact ⟨t, rfl, rfl, rfl⟩

theorem scan_eq_nil (h : scan t = []) : t = [] := by
  cases t with
  | nil => rfl
  | cons c t =>
    cases hread : markAt (c :: t) with
    | some read => cases (scan_of_markAt hread).symm.trans h
    | none => cases (scan_of_not_markAt hread).symm.trans h

theorem body_plain_of_mem_scan (h : .mark m ∈ scan t) : ∀ c ∈ m.body, isBrace c = false := by
  fun_induction scan t with
  | case1 => cases h
  | case2 c t m' rest hread ih =>
    rcases List.mem_cons.mp h with heq | hmem
    · cases heq
      exact (markAt_eq_some_iff.mp hread).2.1
    · exact ih hmem
  | case3 c t hread ih =>
    rcases List.mem_cons.mp h with heq | hmem
    · cases heq
    · exact ih hmem

end ConsentGate.Template
