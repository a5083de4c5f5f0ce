import ConsentGate.Schema.Fault

namespace ConsentGate.Schema

variable {α β : Type}

/-- A value read from data, or every issue that was found on the way. -/
inductive Reading (α : Type) where
  | value (a : α)
  | issues (found : List Issue)

namespace Reading

def fault (f : Fault) : Reading α := issues [⟨f, []⟩]

def map (f : α → β) : Reading α → Reading β
  | value a => value (f a)
  | issues l => issues l

/-- Both sides are read, and the issues of the first come first. -/
def seq : Reading (α → β) → Reading α → Reading β
  | value f, value a => value (f a)
  | value _, issues l => issues l
  | issues l, value _ => issues l
  | issues l, issues l' => issues (l ++ l')

instance : Applicative Reading where
  pure := value
  map := map
  seq f a := seq f (a ())

def andThen (r : Reading α) (f : α → Reading β) : Reading β :=
  match r with
  | value a => f a
  | issues l => issues l

def under (s : Step) : Reading α → Reading α
  | value a => value a
  | issues l => issues (l.map fun i => { i with path := s :: i.path })

def toExcept : Reading α → Except (List Issue) α
  | value a => .ok a
  | issues l => .error l

def each (read : α → Reading β) : List α → Reading (List β)
  | [] => value []
  | a :: rest => (read a).map List.cons |>.seq (each read rest)

def eachFrom (read : α → Reading β) (i : Nat) : List α → Reading (List β)
  | [] => value []
  | a :: rest => ((read a).under (.index i)).map List.cons |>.seq (eachFrom read (i + 1) rest)

theorem seq_eq_value_iff {f : Reading (α → β)} {a : Reading α} {b : β} :
    seq f a = value b ↔ ∃ g x, f = value g ∧ a = value x ∧ g x = b := by
  cases f <;> cases a <;> simp [seq]

theorem map_eq_value_iff {f : α → β} {a : Reading α} {b : β} :
    map f a = value b ↔ ∃ x, a = value x ∧ f x = b := by
  cases a <;> simp [map]

theorem under_eq_value_iff {s : Step} {r : Reading α} {a : α} :
    under s r = value a ↔ r = value a := by
  cases r <;> simp [under]

theorem eachFrom_eq_value_iff {read : α → Reading β} {i : Nat} {l : List α} {bs : List β} :
    eachFrom read i l = value bs ↔ l.map read = bs.map value := by
  induction l generalizing i bs with
  | nil => cases bs <;> simp [eachFrom]
  | cons a rest ih =>
    cases bs with
    | nil => simp [eachFrom, seq_eq_value_iff, map_eq_value_iff]
    | cons b bs =>
      simp only [eachFrom, seq_eq_value_iff, map_eq_value_iff, under_eq_value_iff, ih,
        List.map_cons, List.cons.injEq]
      constructor
      · rintro ⟨_, _, ⟨x, hx, rfl⟩, hr, h⟩
        obtain ⟨rfl, rfl⟩ := List.cons.inj h
        exact ⟨hx, hr⟩
      · rintro ⟨hx, hr⟩
        exact ⟨_, _, ⟨b, hx, rfl⟩, hr, rfl⟩

theorem exists_each_eq_value_iff {read : α → Reading β} {l : List α} :
    (∃ bs, each read l = value bs) ↔ ∀ a ∈ l, ∃ b, read a = value b := by
  induction l with
  | nil => simp [each]
  | cons a rest ih =>
    simp only [each, seq_eq_value_iff, map_eq_value_iff, List.forall_mem_cons, ← ih]
    constructor
    · rintro ⟨_, _, bs, ⟨b, hb, _⟩, hbs, _⟩
      exact ⟨⟨b, hb⟩, bs, hbs⟩
    · rintro ⟨⟨b, hb⟩, bs, hbs⟩
      exact ⟨b :: bs, List.cons b, bs, ⟨b, hb, rfl⟩, hbs, rfl⟩

theorem mem_of_each_eq_value {read : α → Reading β} {l : List α} {bs : List β}
    (h : each read l = value bs) (b : β) : b ∈ bs ↔ ∃ a ∈ l, read a = value b := by
  induction l generalizing bs with
  | nil => cases h; simp
  | cons a rest ih =>
    obtain ⟨_, bs', hf, hrest, rfl⟩ := seq_eq_value_iff.mp h
    obtain ⟨b', hb', rfl⟩ := map_eq_value_iff.mp hf
    have hread : b = b' ↔ read a = value b := by simp [hb', eq_comm]
    simp only [List.mem_cons, or_and_right, exists_or, exists_eq_left, ih hrest, hread]

end Reading

/-- A field that is absent takes its default; without one it is missing. -/
def field (fields : Json.Fields) (name : String) (read : Json → Reading α)
    (default : Option α) : Reading α :=
  match fields.lookup (name : Text), default with
  | some j, _ => (read j).under (.field name)
  | none, some a => .value a
  | none, none => .issues [⟨.missing, [.field name]⟩]

def record (name : String) (read : Json.Fields → Reading α) : Json → Reading α
  | .object fields => read fields
  | _ => .fault (.notRecord name)

def optional (read : Json → Reading α) : Json → Reading (Option α)
  | .null => .value none
  | j => (read j).map some

end ConsentGate.Schema
