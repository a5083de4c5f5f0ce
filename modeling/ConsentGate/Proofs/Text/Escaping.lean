import ConsentGate.Text.Html
import Mathlib.Data.List.Basic

namespace ConsentGate.Html

variable {a b t : Text} {p : CodePoint} {entity : String}

theorem unescape_escapePoint_append (p : CodePoint) (t : Text) :
    unescape (escapePoint p ++ t) = p :: unescape t := by
  cases p with
  | surrogate i => rfl
  | scalar c =>
    rw [escapePoint]
    fun_cases escapeChar c
    case case8 hamp _ _ _ _ _ _ =>
      -- Each entity begins with an ampersand, so any other character stands for itself.
      have hc : c ≠ '&' := hamp
      change unescape (.scalar c :: t) = _
      rw [unescape] <;> simp [hc]
    all_goals rfl

theorem unescape_escape_append (a t : Text) : unescape (escape a ++ t) = a ++ unescape t := by
  induction a with
  | nil => rfl
  | cons p a ih => rw [escape_cons, List.append_assoc, unescape_escapePoint_append, ih, List.cons_append]

theorem unescape_escape (t : Text) : unescape (escape t) = t := by
  have h := unescape_escape_append t []
  rwa [List.append_nil, unescape, List.append_nil] at h

theorem escape_prefix_iff : escape a <+: escape b ↔ a <+: b := by
  constructor
  · rintro ⟨t, ht⟩
    have hread := congrArg unescape ht
    rw [unescape_escape_append, unescape_escape] at hread
    exact ⟨unescape t, hread⟩
  · rintro ⟨t, rfl⟩
    rw [escape_append]
    exact List.prefix_append _ _

theorem escape_injective : Function.Injective escape := by
  intro a b h
  have hab : a <+: b := escape_prefix_iff.mp (h ▸ List.prefix_rfl)
  have hba : b <+: a := escape_prefix_iff.mp (h ▸ List.prefix_rfl)
  exact hab.eq_of_length_le hba.length_le

def entities : List String :=
  ["&amp;", "&lt;", "&gt;", "&quot;", "&#x27;", "&#x60;", "&#x3D;"]

/-- The characters that no escaped text may hold. -/
def marks : Text := Text.ofChars ['<', '>', '\x22', '\x27', '\x60', '=']

/-- A text without marks in which every ampersand begins an entity. -/
structure Safe (t : Text) : Prop where
  unmarked : ∀ p ∈ marks, p ∉ t
  begun : ∀ rest, CodePoint.scalar '&' :: rest <:+ t →
    ∃ entity ∈ entities, Text.ofString entity <+: CodePoint.scalar '&' :: rest

/-- The point means itself wherever it stands. -/
def Plain (p : CodePoint) : Prop := p ≠ .scalar '&' ∧ p ∉ marks

instance (p : CodePoint) : Decidable (Plain p) := inferInstanceAs (Decidable (_ ∧ _))

theorem escapePoint_cases (p : CodePoint) :
    Plain p ∧ escapePoint p = [p] ∨
      ∃ entity ∈ entities, escapePoint p = Text.ofString entity := by
  cases p with
  | surrogate i => exact .inl ⟨⟨nofun, by simp [marks]⟩, rfl⟩
  | scalar c =>
    rw [escapePoint]
    fun_cases escapeChar c
    case case8 hamp hlt hgt hquot hapos htick heq =>
      refine .inl ⟨⟨fun h => hamp (CodePoint.scalar.inj h), fun h => ?_⟩, rfl⟩
      simp only [marks, Text.ofChars_cons, Text.ofChars_nil, List.mem_cons, List.not_mem_nil,
        CodePoint.scalar.injEq, or_false] at h
      rcases h with h | h | h | h | h | h
      exacts [hlt h, hgt h, hquot h, hapos h, htick h, heq h]
    all_goals exact .inr ⟨_, by decide, rfl⟩

theorem exists_of_mem_entities (h : entity ∈ entities) :
    ∃ name, Text.ofString entity = .scalar '&' :: name ∧ ∀ p ∈ name, Plain p := by
  simp only [entities, List.mem_cons, List.not_mem_nil, or_false] at h
  rcases h with rfl | rfl | rfl | rfl | rfl | rfl | rfl
  all_goals exact ⟨_, rfl, by decide⟩

namespace Safe

theorem nil : Safe [] :=
  ⟨fun _ _ => List.not_mem_nil, fun _ h => nomatch List.suffix_nil.mp h⟩

theorem cons (hp : p ∉ marks)
    (hamp : p = .scalar '&' → ∃ entity ∈ entities, Text.ofString entity <+: p :: t) (h : Safe t) :
    Safe (p :: t) := by
  constructor
  · intro q hq
    rw [List.mem_cons, not_or]
    exact ⟨fun heq => hp (heq ▸ hq), h.unmarked q hq⟩
  · intro rest hrest
    rcases List.suffix_cons_iff.mp hrest with heq | hrest
    · obtain ⟨hhead, rfl⟩ := List.cons.inj heq
      rw [hhead]
      exact hamp hhead.symm
    · exact h.begun rest hrest

theorem plain_append (ha : ∀ p ∈ a, Plain p) (h : Safe t) : Safe (a ++ t) := by
  induction a with
  | nil => exact h
  | cons p a ih =>
    rw [List.forall_mem_cons] at ha
    obtain ⟨⟨hamp, hmarks⟩, ha⟩ := ha
    exact (ih ha).cons hmarks fun hp => absurd hp hamp

theorem entity_append (hentity : entity ∈ entities) (h : Safe t) :
    Safe (Text.ofString entity ++ t) := by
  obtain ⟨name, hname, hplain⟩ := exists_of_mem_entities hentity
  have hprefix : Text.ofString entity <+: .scalar '&' :: (name ++ t) := by
    rw [hname, ← List.cons_append]
    exact List.prefix_append _ _
  rw [hname, List.cons_append]
  exact (h.plain_append hplain).cons (by decide) fun _ => ⟨entity, hentity, hprefix⟩

end Safe

theorem safe_escape (t : Text) : Safe (escape t) := by
  induction t with
  | nil => exact .nil
  | cons p t ih =>
    rw [escape_cons]
    rcases escapePoint_cases p with ⟨hp, hself⟩ | ⟨entity, hentity, hcode⟩
    · rw [hself]
      exact ih.plain_append (List.forall_mem_singleton.mpr hp)
    · rw [hcode]
      exact ih.entity_append hentity

/-- Escaping is a prefix code that is read back from left to right, and all it writes is safe. -/
theorem escape_prefix_code :
    (∀ u v, escape u <+: escape v ↔ u <+: v) ∧ Function.Injective escape ∧
      Function.LeftInverse unescape escape ∧ ∀ v, Safe (escape v) :=
  ⟨fun _ _ => escape_prefix_iff, escape_injective, unescape_escape, safe_escape⟩

end ConsentGate.Html
