import ConsentGate.Schema.Scalar

namespace ConsentGate.Schema

variable {α β : Type}

/-- There is nothing to tell and a value is read, or no value is read and just these are told. -/
def Reading.Finds (r : Reading α) (found : List Issue) : Prop :=
  match r with
  | value _ => found = []
  | issues l => l = found ∧ found ≠ []

/-- What is wrong with one value, where a value that can be read has still to pass a test. -/
def Reading.fault? (r : Reading α) (test : α → Option Fault) : Option Fault :=
  match r with
  | value a => test a
  | issues l => l.head?.map (·.fault)

def only (fault : Option Fault) : List Issue := fault.toList.map fun f => ⟨f, []⟩

def Reading.Simple (r : Reading α) : Prop := r.Finds (only (r.fault? fun _ => none))

namespace Reading

variable {r r' : Reading α} {l l' : List Issue} {f : Reading (α → β)}

theorem Finds.map (h : r.Finds l) (g : α → β) : (map g r).Finds l := by
  cases r <;> exact h

theorem Finds.seq (hf : f.Finds l) (hr : r.Finds l') : (seq f r).Finds (l ++ l') := by
  cases f with
  | value g =>
    obtain rfl : l = [] := hf
    cases r <;> exact hr
  | issues found =>
    obtain ⟨rfl, hne⟩ := hf
    -- What is wrong with the function does not hide what is wrong with its argument.
    cases r with
    | value a =>
      obtain rfl : l' = [] := hr
      rw [List.append_nil]
      exact ⟨rfl, hne⟩
    | issues found' =>
      obtain ⟨rfl, -⟩ := hr
      exact ⟨rfl, List.append_ne_nil_of_left_ne_nil hne _⟩

theorem Finds.under (h : r.Finds l) (s : Step) :
    (under s r).Finds (l.map fun i => { i with path := s :: i.path }) := by
  cases r with
  | value a =>
    obtain rfl : l = [] := h
    rfl
  | issues found =>
    obtain ⟨rfl, hne⟩ := h
    exact ⟨rfl, by simpa using hne⟩

theorem Finds.exists_value_iff (h : r.Finds l) : (∃ a, r = value a) ↔ l = [] := by
  cases r with
  | value a =>
    obtain rfl : l = [] := h
    simp
  | issues found => simp [h.2]

theorem Finds.eq_issues (h : r.Finds l) (hne : l ≠ []) : r = issues l := by
  cases r with
  | value a => exact absurd h hne
  | issues found => rw [h.1]

theorem finds_value (a : α) : (value a).Finds (only none) := rfl

theorem finds_fault (f : Fault) : (fault f : Reading α).Finds (only (some f)) :=
  ⟨rfl, List.cons_ne_nil _ _⟩

theorem simple_value (a : α) : (value a).Simple := finds_value a

theorem simple_fault (f : Fault) : (fault f : Reading α).Simple := finds_fault f

theorem simple_elim {o : Option α} (f : Fault) : (o.elim (.fault f) value).Simple := by
  cases o with
  | none => exact simple_fault f
  | some a => exact simple_value a

theorem Simple.ite {c : Prop} [Decidable c] (h : r.Simple) (h' : r'.Simple) :
    (if c then r else r').Simple := by
  split
  · exact h
  · exact h'

theorem Simple.andThen {k : α → Reading β} {test : α → Option Fault} (h : r.Simple)
    (hk : ∀ a, (k a).Finds (only (test a))) : (r.andThen k).Finds (only (r.fault? test)) := by
  cases r with
  | value a => exact hk a
  | issues found => exact h

end Reading

theorem simple_readText (j : Json) : (readText j).Simple := by
  cases j <;> first | exact Reading.simple_value _ | exact Reading.simple_fault _

theorem simple_intOfDecimal (d : Decimal) : (intOfDecimal d).Simple := by
  unfold intOfDecimal
  cases d.toRat? with
  | none => exact Reading.simple_fault _
  | some r =>
    exact (Reading.simple_fault _).ite ((Reading.simple_fault _).ite (Reading.simple_value _))

theorem simple_intOfString (s : String) : (intOfString s).Simple := by
  exact (Reading.simple_fault _).ite (Reading.simple_elim _)

theorem simple_readInt (j : Json) : (readInt j).Simple := by
  cases j with
  | int n => exact Reading.simple_value n
  | bool b => exact Reading.simple_value _
  | decimal d => exact simple_intOfDecimal d
  | string s => exact simple_intOfString s
  | _ => exact Reading.simple_fault _

theorem simple_boolOfInt (n : Int) : (boolOfInt n).Simple := by
  exact (Reading.simple_value _).ite
    ((Reading.simple_value _).ite ((Reading.simple_fault _).ite (Reading.simple_fault _)))

theorem simple_readBool (j : Json) : (readBool j).Simple := by
  cases j with
  | bool b => exact Reading.simple_value b
  | int n => exact simple_boolOfInt n
  | decimal d =>
    change (boolOfDecimal d).Simple
    unfold boolOfDecimal
    cases intOfDecimal d with
    | value n => exact simple_boolOfInt n
    | issues found => exact Reading.simple_fault _
  | string s =>
    exact (Reading.simple_value _).ite ((Reading.simple_value _).ite (Reading.simple_fault _))
  | _ => exact Reading.simple_fault _

end ConsentGate.Schema
