namespace ConsentGate

variable {ε ε' α β : Type} {x : Except ε α} {a : α} {b : β}

theorem bind_eq_ok_iff {f : α → Except ε β} : x >>= f = .ok b ↔ ∃ a, x = .ok a ∧ f a = .ok b := by
  cases x <;> simp [bind, Except.bind]

theorem bind_pure_eq_error_iff {f : α → β} {e : ε} :
    (x >>= fun a => pure (f a)) = .error e ↔ x = .error e := by
  cases x <;> simp [bind, Except.bind, pure, Except.pure]

/-- Of two steps with their possible failures, the failure of the first is the one that is met. -/
theorem bind_eq_error_iff_or {k : α → Except ε β} {first second : Option ε}
    (hx : ∀ e, x = .error e ↔ first = some e)
    (hk : ∀ a e, k a = .error e ↔ second = some e) (e : ε) :
    x >>= k = .error e ↔ first.or second = some e := by
  cases x with
  | error e' =>
    rw [(hx e').mp rfl]
    simp [bind, Except.bind]
  | ok a =>
    have hfirst : first = none := Option.eq_none_iff_forall_ne_some.mpr fun e' he' => by
      cases (hx e').mpr he'
    rw [hfirst, Option.none_or]
    exact hk a e

theorem map_eq_ok_iff {f : α → β} : x.map f = .ok b ↔ ∃ a, x = .ok a ∧ f a = b := by
  cases x <;> simp [Except.map]

theorem map_eq_error_iff {f : α → β} {e : ε} : x.map f = .error e ↔ x = .error e := by
  cases x <;> simp [Except.map]

theorem mapError_eq_ok_iff {f : ε → ε'} : x.mapError f = .ok a ↔ x = .ok a := by
  cases x with
  | ok b => exact (iff_of_eq (Except.ok.injEq b a)).trans (iff_of_eq (Except.ok.injEq b a)).symm
  | error e => exact iff_of_false nofun nofun

theorem toOption_eq_some_iff : x.toOption = some a ↔ x = .ok a := by
  cases x <;> simp [Except.toOption]

theorem pure_eq_ok_iff {a' : α} : (pure a : Except ε α) = .ok a' ↔ a = a' :=
  Except.ok.injEq a a' ▸ .rfl

/-- A check with the rest behind it. -/
theorem unless_eq_ok_iff {c : Prop} [Decidable c] {e : ε} {rest : PUnit → Except ε β} :
    (if c then throw e >>= rest else rest ⟨⟩) = .ok b ↔ ¬c ∧ rest ⟨⟩ = .ok b := by
  by_cases hc : c
  · rw [if_pos hc]
    exact iff_of_false nofun fun h => h.1 hc
  · rw [if_neg hc]
    exact (and_iff_right hc).symm

end ConsentGate
