namespace ConsentGate

/-- One place of a text as it arrives: a character, or half of a pair that stands alone. -/
inductive CodePoint where
  | scalar (c : Char)
  | surrogate (i : Fin 2048)
deriving DecidableEq, Inhabited

abbrev Text := List CodePoint

namespace CodePoint

def toNat : CodePoint → Nat
  | scalar c => c.toNat
  | surrogate i => 0xD800 + i

/-- A number past the last character counts as the null character. -/
def ofNat (n : Nat) : CodePoint :=
  if h : 0xD800 ≤ n ∧ n < 0xE000 then surrogate ⟨n - 0xD800, by omega⟩ else scalar (Char.ofNat n)

def isSurrogate : CodePoint → Bool
  | scalar _ => false
  | surrogate _ => true

end CodePoint

namespace Text

def ofChars (cs : List Char) : Text := cs.map .scalar

def ofString (s : String) : Text := ofChars s.toList

instance : Coe String Text := ⟨ofString⟩

def chars? : Text → Option (List Char)
  | [] => some []
  | .scalar c :: rest => (chars? rest).map (c :: ·)
  | .surrogate _ :: _ => none

@[simp] theorem ofChars_nil : ofChars [] = [] := rfl

@[simp] theorem ofChars_cons (c : Char) (cs : List Char) :
    ofChars (c :: cs) = .scalar c :: ofChars cs := rfl

@[simp] theorem ofChars_append (a b : List Char) : ofChars (a ++ b) = ofChars a ++ ofChars b :=
  List.map_append

@[simp] theorem chars?_ofChars (cs : List Char) : chars? (ofChars cs) = some cs := by
  induction cs with
  | nil => rfl
  | cons c cs ih => simp [chars?, ih]

theorem ofChars_inj {a b : List Char} : ofChars a = ofChars b ↔ a = b := by
  refine ⟨fun h => ?_, congrArg ofChars⟩
  rw [← Option.some.injEq, ← chars?_ofChars, h, chars?_ofChars]

@[simp] theorem ofString_inj {s t : String} : ofString s = ofString t ↔ s = t :=
  ofChars_inj.trans String.toList_inj

@[simp] theorem ofString_beq {s t : String} : (ofString s == ofString t) = (s == t) := by
  rw [Bool.eq_iff_iff, beq_iff_eq, beq_iff_eq, ofString_inj]

theorem eq_ofChars_of_chars? {t : Text} {cs : List Char} (h : t.chars? = some cs) :
    t = ofChars cs := by
  induction t generalizing cs with
  | nil =>
    cases h
    rfl
  | cons p t ih =>
    cases p with
    | scalar c =>
      obtain ⟨cs, hcs, rfl⟩ := Option.map_eq_some_iff.mp h
      rw [ih hcs, ofChars_cons]
    | surrogate i => cases h

end Text

end ConsentGate
