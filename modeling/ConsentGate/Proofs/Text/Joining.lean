import Mathlib.Algebra.GroupWithZero.Nat
import Mathlib.Data.List.Basic

namespace ConsentGate

variable {α : Type} [DecidableEq α] {x : α} {a b r s : List α} {fs gs : List (List α)}

theorem append_cons_inj_of_count (hcount : a.count x = b.count x) (h : a ++ x :: r = b ++ x :: s) :
    a = b ∧ r = s := by
  rcases List.append_eq_append_iff.mp h with ⟨c, rfl, hc⟩ | ⟨c, rfl, hc⟩
  all_goals
    cases c with
    | nil => simp_all
    | cons y c =>
      -- The longer one would hold the separator once more.
      obtain ⟨rfl, -⟩ := List.cons_eq_cons.mp hc
      rw [List.count_append, List.count_cons_self] at hcount
      omega

theorem eq_of_intercalate_eq (hcount : fs.map (·.count x) = gs.map (·.count x))
    (h : [x].intercalate fs = [x].intercalate gs) : fs = gs := by
  induction fs generalizing gs with
  | nil => exact (List.map_eq_nil_iff.mp hcount.symm).symm
  | cons f fs ih =>
    cases gs with
    | nil => cases hcount
    | cons g gs =>
      obtain ⟨hhead, htail⟩ := List.cons_eq_cons.mp hcount
      cases fs with
      | nil =>
        obtain rfl := List.map_eq_nil_iff.mp htail.symm
        rw [List.intercalate_singleton, List.intercalate_singleton] at h
        rw [h]
      | cons f' fs =>
        cases gs with
        | nil => cases htail
        | cons g' gs =>
          rw [List.intercalate_cons_cons, List.intercalate_cons_cons, List.append_assoc,
            List.append_assoc] at h
          obtain ⟨rfl, hrest⟩ := append_cons_inj_of_count hhead h
          rw [ih htail hrest]

theorem count_intercalate_cons (f : List α) (fs : List (List α)) :
    ([x].intercalate (f :: fs)).count x = ((f :: fs).map (·.count x)).sum + fs.length := by
  induction fs generalizing f with
  | nil => simp
  | cons f' fs ih =>
    rw [List.intercalate_cons_cons, List.count_append, List.count_append, ih, List.count_singleton_self]
    simp only [List.map_cons, List.sum_cons, List.length_cons]
    omega

end ConsentGate
