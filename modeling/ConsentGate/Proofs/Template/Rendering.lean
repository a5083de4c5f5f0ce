import ConsentGate.Proofs.Text.Escaping
import ConsentGate.Template.Basic

namespace ConsentGate.Template

variable {t : Template} {part : Part} {f g : Text → Text} {name : Text}

def Part.names : Part → List Text
  | literal _ => []
  | tag t => [t.name]

theorem names_cons (part : Part) (t : Template) : names (part :: t) = part.names ++ t.names := by
  cases part <;> rfl

theorem render_cons (f : Text → Text) (part : Part) (t : Template) :
    render f (part :: t) = part.render f ++ t.render f := List.flatMap_cons

theorem Part.render_congr (h : ∀ n ∈ part.names, f n = g n) : part.render f = part.render g := by
  cases part with
  | literal c => rfl
  | tag tag => rw [render, render, h tag.name (List.mem_singleton_self _)]

theorem render_congr (h : ∀ n ∈ t.names, f n = g n) : t.render f = t.render g := by
  induction t with
  | nil => rfl
  | cons part t ih =>
    rw [names_cons, List.forall_mem_append] at h
    rw [render_cons, render_cons, Part.render_congr h.1, ih h.2]

theorem Part.render_prefix_iff (hname : name ∈ part.names) :
    part.render f <+: part.render g ↔ f name <+: g name := by
  cases part with
  | literal c => cases hname
  | tag tag =>
    obtain rfl := List.mem_singleton.mp hname
    rw [render, render]
    split
    · exact Iff.rfl
    · exact Html.escape_prefix_iff

theorem Part.length_render_le (h : ∀ n, f n <+: g n) :
    (part.render f).length ≤ (part.render g).length := by
  cases part with
  | literal c => exact Nat.le_refl _
  | tag tag => exact ((render_prefix_iff (List.mem_singleton_self _)).mpr (h tag.name)).length_le

theorem Part.length_render_lt (h : ∀ n, f n <+: g n) (hname : name ∈ part.names)
    (hne : f name ≠ g name) : (part.render f).length < (part.render g).length := by
  by_contra hle
  have hfg := (render_prefix_iff hname).mpr (h name)
  have heq := hfg.eq_of_length_le (Nat.le_of_not_lt hle)
  have hgf : g name <+: f name := (render_prefix_iff hname).mp (heq ▸ List.prefix_rfl)
  exact hne ((h name).eq_of_length_le hgf.length_le)

theorem length_render_le (h : ∀ n, f n <+: g n) : (t.render f).length ≤ (t.render g).length := by
  induction t with
  | nil => exact Nat.le_refl _
  | cons part t ih =>
    have hpart : (part.render f).length ≤ (part.render g).length := Part.length_render_le h
    rw [render_cons, render_cons, List.length_append, List.length_append]
    omega

theorem length_render_lt (h : ∀ n, f n <+: g n) (hname : name ∈ t.names) (hne : f name ≠ g name) :
    (t.render f).length < (t.render g).length := by
  induction t with
  | nil => cases hname
  | cons part t ih =>
    rw [names_cons, List.mem_append] at hname
    rw [render_cons, render_cons, List.length_append, List.length_append]
    rcases hname with hpart | htail
    · have hlt := Part.length_render_lt h hpart hne
      have hle := length_render_le (t := t) h
      omega
    · have hle : (part.render f).length ≤ (part.render g).length := Part.length_render_le h
      have hlt := ih htail
      omega

/-- At the first place where the renderings could part, one value goes on the other. -/
theorem comparable_of_render_eq (hother : ∀ n, n ≠ name → f n = g n) (hname : name ∈ t.names)
    (h : t.render f = t.render g) : f name <+: g name ∨ g name <+: f name := by
  induction t with
  | nil => cases hname
  | cons part t ih =>
    rw [render_cons, render_cons] at h
    by_cases hpart : name ∈ part.names
    · have hf := List.prefix_append (part.render f) (render f t)
      have hg := List.prefix_append (part.render g) (render g t)
      rw [← h] at hg
      rw [← Part.render_prefix_iff hpart, ← Part.render_prefix_iff hpart]
      exact List.prefix_or_prefix_of_prefix hf hg
    · rw [names_cons, List.mem_append] at hname
      have hhead : part.render f = part.render g :=
        Part.render_congr fun n hn => hother n fun heq => hpart (heq ▸ hn)
      rw [hhead] at h
      exact ih (hname.resolve_left hpart) (List.append_cancel_left h)

theorem prefix_of_prefix_at (hother : ∀ n, n ≠ name → f n = g n) (h : f name <+: g name)
    (n : Text) :
    f n <+: g n := by
  by_cases hn : n = name
  · rw [hn]
    exact h
  · exact hother n hn ▸ List.prefix_rfl

/-- No later place can make up for the difference in length, whether the value is escaped there or
not. -/
theorem render_ne_of_prefix (hother : ∀ n, n ≠ name → f n = g n) (hname : name ∈ t.names)
    (hne : f name ≠ g name) (h : f name <+: g name) : t.render f ≠ t.render g := by
  intro heq
  have hlt := length_render_lt (prefix_of_prefix_at hother h) hname hne
  rw [heq] at hlt
  exact Nat.lt_irrefl _ hlt

theorem render_ne (hother : ∀ n, n ≠ name → f n = g n) (hname : name ∈ t.names)
    (hne : f name ≠ g name) : t.render f ≠ t.render g := by
  intro h
  rcases comparable_of_render_eq hother hname h with hfg | hgf
  · exact render_ne_of_prefix hother hname hne hfg h
  · have hother' : ∀ n, n ≠ name → g n = f n := fun n hn => (hother n hn).symm
    exact render_ne_of_prefix hother' hname hne.symm hgf h.symm

end ConsentGate.Template
