import ConsentGate.Text.Blank

namespace ConsentGate

variable {α : Type} {p : α → Bool} {a b n : List α}

theorem trim_eq_of_blank_around (ha : ∀ c ∈ a, p c = true) (hb : ∀ c ∈ b, p c = true)
    (hne : n ≠ []) (hhead : ∀ c ∈ n.head?, p c = false) (hlast : ∀ c ∈ n.getLast?, p c = false) :
    trim p (a ++ n ++ b) = n := by
  have hstart : (a ++ n ++ b).dropWhile p = n ++ b := by
    rw [List.append_assoc, List.dropWhile_append_of_pos ha]
    obtain ⟨x, xs, rfl⟩ := List.exists_cons_of_ne_nil hne
    rw [List.cons_append, List.dropWhile_cons_of_neg]
    simp [hhead x rfl]
  have hend : (b.reverse ++ n.reverse).dropWhile p = n.reverse := by
    rw [List.dropWhile_append_of_pos fun c hc => hb c (List.mem_reverse.mp hc)]
    rw [← List.head?_reverse] at hlast
    obtain ⟨x, xs, hx⟩ := List.exists_cons_of_ne_nil (List.reverse_ne_nil_iff.mpr hne)
    rw [hx] at hlast ⊢
    rw [List.dropWhile_cons_of_neg]
    simp [hlast x rfl]
  rw [trim, hstart, trimEnd, List.reverse_append, hend, List.reverse_reverse]

theorem trim_eq_self (hne : n ≠ []) (hhead : ∀ c ∈ n.head?, p c = false)
    (hlast : ∀ c ∈ n.getLast?, p c = false) : trim p n = n := by
  have h := trim_eq_of_blank_around (a := []) (b := []) nofun nofun hne hhead hlast
  rwa [List.nil_append, List.append_nil] at h

theorem exists_trimEnd (p : α → Bool) (l : List α) :
    ∃ b, l = trimEnd p l ++ b ∧ ∀ c ∈ b, p c = true := by
  refine ⟨(l.reverse.takeWhile p).reverse, ?_, ?_⟩
  · rw [trimEnd, ← List.reverse_append, List.takeWhile_append_dropWhile, List.reverse_reverse]
  · intro c hc
    exact List.all_eq_true.mp List.all_takeWhile c (List.mem_reverse.mp hc)

theorem exists_trim (p : α → Bool) (l : List α) :
    ∃ a b, l = a ++ trim p l ++ b ∧ (∀ c ∈ a, p c = true) ∧ ∀ c ∈ b, p c = true := by
  obtain ⟨b, hsplit, hb⟩ := exists_trimEnd p (l.dropWhile p)
  refine ⟨l.takeWhile p, b, ?_, fun c hc => List.all_eq_true.mp List.all_takeWhile c hc, hb⟩
  rw [List.append_assoc, trim, ← hsplit, List.takeWhile_append_dropWhile]

theorem not_of_mem_head?_dropWhile {l : List α} {c : α} (h : c ∈ (l.dropWhile p).head?) :
    p c = false := by
  have hnot := List.head?_dropWhile_not p l
  rw [Option.mem_def.mp h] at hnot
  exact hnot

theorem not_of_mem_getLast?_trim {l : List α} {c : α} (h : c ∈ (trim p l).getLast?) :
    p c = false := by
  rw [trim, trimEnd, List.getLast?_reverse] at h
  exact not_of_mem_head?_dropWhile h

theorem not_of_mem_head?_trim {l : List α} {c : α} (h : c ∈ (trim p l).head?) : p c = false := by
  obtain ⟨b, hsplit, _⟩ := exists_trimEnd p (l.dropWhile p)
  have hhead : c ∈ (l.dropWhile p).head? := by
    rw [hsplit, List.head?_append]
    rw [trim] at h
    rw [Option.mem_def.mp h]
    rfl
  exact not_of_mem_head?_dropWhile hhead

end ConsentGate
