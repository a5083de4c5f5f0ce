import ConsentGate.Proofs.Text.Trim
import ConsentGate.Template.Basic
import Mathlib.Data.List.Basic

namespace ConsentGate.Template

/-- A placeholder as it is written: a name with blanks around it, between two or three braces. -/
structure Placeholder where
  triple : Bool
  before : Text
  name : Text
  after : Text
deriving DecidableEq

namespace Placeholder

def body (p : Placeholder) : Text := p.before ++ p.name ++ p.after

def mark (p : Placeholder) : Mark := ⟨p.triple, p.body, p.triple⟩

def text (p : Placeholder) : Text :=
  List.replicate (if p.triple then 3 else 2) opening ++ p.body ++
    List.replicate (if p.triple then 3 else 2) closing

structure WellFormed (p : Placeholder) : Prop where
  before_blank : ∀ c ∈ p.before, c.isBlank = true
  after_blank : ∀ c ∈ p.after, c.isBlank = true
  name_ne_nil : p.name ≠ []
  name_starts : ∀ c ∈ p.name.head?, c.isBlank = false
  name_ends : ∀ c ∈ p.name.getLast?, c.isBlank = false
  name_plain : ∀ c ∈ p.name, isBrace c = false

end Placeholder

inductive Item where
  | literal (c : CodePoint)
  | placeholder (p : Placeholder)
deriving DecidableEq

namespace Item

def text : Item → Text
  | literal c => [c]
  | placeholder p => p.text

def piece : Item → Piece
  | literal c => .plain c
  | placeholder p => .mark p.mark

def part : Item → Part
  | literal c => .literal c
  | placeholder p => .tag ⟨p.triple, p.name⟩

def WellFormed : Item → Prop
  | literal _ => True
  | placeholder p => p.WellFormed

def render (value : Text → Text) : Item → Text
  | literal c => [c]
  | placeholder p => if p.triple then value p.name else Html.escape (value p.name)

theorem text_ne_nil (i : Item) : i.text ≠ [] := by
  cases i with
  | literal c => exact List.cons_ne_nil _ _
  | placeholder p =>
    rw [text, Placeholder.text]
    cases p.triple <;> exact List.cons_ne_nil _ _

theorem getLast?_text_placeholder (p : Placeholder) :
    (placeholder p).text.getLast? = some closing := by
  rw [text, Placeholder.text, List.getLast?_append, List.getLast?_replicate]
  cases p.triple <;> rfl

end Item

/-- A template taken apart. What stands between two placeholders is a run of literals. -/
abbrev Layout := List Item

namespace Layout

def text (l : Layout) : Text := l.flatMap Item.text

def literals (l : Layout) : Text :=
  l.filterMap fun
    | .literal c => some c
    | .placeholder _ => none

def names (l : Layout) : List Text :=
  l.filterMap fun
    | .literal _ => none
    | .placeholder p => some p.name

def render (value : Text → Text) (l : Layout) : Text := l.flatMap (Item.render value)

/-- Next to a placeholder with two braces stands no brace that could be its third. -/
def Apart (l : Layout) : Prop :=
  ∀ (before : Layout) p (after : Layout), l = before ++ .placeholder p :: after →
    p.triple = false → opening ∉ before.text.getLast? ∧ closing ∉ after.text.head?

structure Correct (allowed : List Text) (l : Layout) : Prop where
  wellFormed : ∀ i ∈ l, i.WellFormed
  names_allowed : ∀ name ∈ l.names, name ∈ allowed
  apart : l.Apart
  no_pair : ∀ b, isBrace b = true → ¬[b, b] <:+: l.literals

variable {l : Layout} {i : Item} {allowed : List Text}

@[simp] theorem text_nil : text [] = [] := rfl

@[simp] theorem text_cons (i : Item) (l : Layout) : text (i :: l) = i.text ++ text l := rfl

theorem text_ne_nil (i : Item) (l : Layout) : text (i :: l) ≠ [] :=
  List.append_ne_nil_of_left_ne_nil i.text_ne_nil _

theorem apart_nil : Apart [] := by
  intro before p after hl
  cases before <;> cases hl

theorem Apart.tail (h : Apart (i :: l)) : Apart l := by
  intro before p after hl hp
  obtain ⟨hbefore, hafter⟩ := h (i :: before) p after (by rw [hl, List.cons_append]) hp
  exact ⟨fun hlast => hbefore (List.mem_getLast?_append_of_mem_getLast? hlast), hafter⟩

theorem Apart.cons (h : Apart l)
    (hbefore : ∀ p after, l = .placeholder p :: after → p.triple = false →
      opening ∉ i.text.getLast?)
    (hafter : ∀ p, i = .placeholder p → p.triple = false → closing ∉ l.text.head?) :
    Apart (i :: l) := by
  intro before p after hl hp
  cases before with
  | nil =>
    obtain ⟨rfl, rfl⟩ := List.cons_eq_cons.mp hl
    exact ⟨nofun, hafter p rfl hp⟩
  | cons j before =>
    obtain ⟨rfl, rfl⟩ := List.cons_eq_cons.mp hl
    obtain ⟨hlast, hhead⟩ := h before p after rfl hp
    refine ⟨?_, hhead⟩
    cases before with
    | nil => simpa using hbefore p after rfl hp
    | cons k before =>
      rw [text_cons, List.getLast?_append_of_ne_nil _ (text_ne_nil k before)]
      exact hlast

theorem names_map_part (l : Layout) : Template.names (l.map Item.part) = l.names := by
  rw [Template.names, names, List.filterMap_map]
  congr 1
  funext i
  cases i <;> rfl

theorem literals_map_part (l : Layout) : Template.literals (l.map Item.part) = l.literals := by
  rw [Template.literals, literals, List.filterMap_map]
  congr 1
  funext i
  cases i <;> rfl

theorem render_map_part (value : Text → Text) (l : Layout) :
    Template.render value (l.map Item.part) = l.render value := by
  rw [Template.render, render, List.flatMap_map]
  congr 1
  funext i
  cases i <;> rfl

end Layout

namespace Placeholder

variable {p q : Placeholder}

theorem name_mark (h : p.WellFormed) : p.mark.name = p.name :=
  trim_eq_of_blank_around h.before_blank h.after_blank h.name_ne_nil h.name_starts h.name_ends

theorem isBrace_eq_false_of_isBlank {c : CodePoint} (h : c.isBlank = true) : isBrace c = false := by
  rw [isBrace, Bool.or_eq_false_iff, decide_eq_false_iff_not, decide_eq_false_iff_not]
  constructor <;> rintro rfl <;> exact absurd h (by decide)

theorem body_plain (h : p.WellFormed) : ∀ c ∈ p.body, isBrace c = false := by
  intro c hc
  rw [body, List.mem_append, List.mem_append] at hc
  rcases hc with (hbefore | hname) | hafter
  · exact isBrace_eq_false_of_isBlank (h.before_blank c hbefore)
  · exact h.name_plain c hname
  · exact isBrace_eq_false_of_isBlank (h.after_blank c hafter)

theorem takeWhile_body (h : p.WellFormed) : p.body.takeWhile CodePoint.isBlank = p.before := by
  rw [body, List.append_assoc, List.takeWhile_append_of_pos h.before_blank]
  obtain ⟨c, cs, hname⟩ := List.exists_cons_of_ne_nil h.name_ne_nil
  have hc : c.isBlank = false := h.name_starts c (by rw [hname]; rfl)
  rw [hname, List.cons_append, List.takeWhile_cons_of_neg (by simp [hc]), List.append_nil]

theorem eq_of_mark_eq (hp : p.WellFormed) (hq : q.WellFormed) (h : p.mark = q.mark) : p = q := by
  have hname : p.name = q.name := by rw [← name_mark hp, ← name_mark hq, h]
  obtain ⟨htriple, hbody, _⟩ := Mark.mk.injEq .. ▸ h
  have hbefore : p.before = q.before := by rw [← takeWhile_body hp, ← takeWhile_body hq, hbody]
  have hafter : p.after = q.after := by
    rw [body, body, hname, hbefore] at hbody
    exact List.append_cancel_left hbody
  cases p
  cases q
  simp_all

theorem exists_of_mark {m : Mark} (hbalanced : m.opensTriple = m.closesTriple)
    (hname : m.name ≠ []) (hplain : ∀ c ∈ m.body, isBrace c = false) :
    ∃ p : Placeholder, p.WellFormed ∧ p.mark = m ∧ p.name = m.name := by
  obtain ⟨before, after, hbody, hbefore, hafter⟩ := exists_trim CodePoint.isBlank m.body
  refine ⟨⟨m.opensTriple, before, m.name, after⟩, ⟨hbefore, hafter, hname, ?_, ?_, ?_⟩, ?_, rfl⟩
  · exact fun c hc => not_of_mem_head?_trim hc
  · exact fun c hc => not_of_mem_getLast?_trim hc
  · intro c hc
    apply hplain
    rw [hbody]
    exact List.mem_append_left _ (List.mem_append_right _ hc)
  · calc Mark.mk m.opensTriple (before ++ m.name ++ after) m.opensTriple
        = Mark.mk m.opensTriple m.body m.opensTriple := congrArg (Mark.mk _ · _) hbody.symm
      _ = Mark.mk m.opensTriple m.body m.closesTriple := congrArg (Mark.mk _ _) hbalanced

end Placeholder

end ConsentGate.Template
