import ConsentGate.Text.Blank

namespace ConsentGate.Template

@[match_pattern] abbrev opening : CodePoint := .scalar '\x7b'

@[match_pattern] abbrev closing : CodePoint := .scalar '\x7d'

def isBrace (c : CodePoint) : Bool := c = opening || c = closing

/-- What stands between two or three opening and two or three closing braces, blanks included. -/
structure Mark where
  opensTriple : Bool
  body : Text
  closesTriple : Bool
deriving DecidableEq

def Mark.name (m : Mark) : Text := trim CodePoint.isBlank m.body

def Mark.text (m : Mark) : Text :=
  List.replicate (if m.opensTriple then 3 else 2) opening ++ m.body ++
    List.replicate (if m.closesTriple then 3 else 2) closing

inductive Piece where
  | plain (c : CodePoint)
  | mark (m : Mark)
deriving DecidableEq

def takeBrace (b : CodePoint) : Text → Bool × Text
  | c :: rest => if c = b then (true, rest) else (false, c :: rest)
  | [] => (false, [])

/-- The mark that two opening braces begin; a third brace on either side belongs to it. -/
def readMark (t : Text) : Option (Mark × Text) :=
  let (opensTriple, t) := takeBrace opening t
  let body := t.takeWhile (!isBrace ·)
  match t.dropWhile (!isBrace ·) with
  | closing :: closing :: rest =>
    let (closesTriple, rest) := takeBrace closing rest
    some (⟨opensTriple, body, closesTriple⟩, rest)
  | _ => none

def markAt : Text → Option (Mark × Text)
  | opening :: opening :: t => readMark t
  | _ => none

theorem length_takeBrace_le (b : CodePoint) (t : Text) :
    (takeBrace b t).2.length ≤ t.length := by
  cases t with
  | nil => simp [takeBrace]
  | cons c rest =>
    simp only [takeBrace]
    split <;> simp

theorem length_dropWhile_le {α : Type} (p : α → Bool) (l : List α) :
    (l.dropWhile p).length ≤ l.length := (List.dropWhile_sublist p).length_le

theorem length_of_readMark {t rest : Text} {m : Mark} (h : readMark t = some (m, rest)) :
    rest.length < t.length := by
  simp only [readMark] at h
  split at h
  · next r hr =>
    simp only [Option.some.injEq, Prod.mk.injEq] at h
    obtain ⟨-, rfl⟩ := h
    have h1 := length_takeBrace_le opening t
    have h2 := length_dropWhile_le (!isBrace ·) (takeBrace opening t).2
    have h3 := length_takeBrace_le closing r
    rw [hr] at h2
    simp only [List.length_cons] at h2
    omega
  · simp at h

theorem length_of_markAt {t rest : Text} {m : Mark} (h : markAt t = some (m, rest)) :
    rest.length < t.length := by
  unfold markAt at h
  split at h
  · have := length_of_readMark h
    simp only [List.length_cons]
    omega
  · simp at h

def scan (t : Text) : List Piece :=
  match t with
  | [] => []
  | c :: rest =>
    match _h : markAt (c :: rest) with
    | some (m, after) => .mark m :: scan after
    | none => .plain c :: scan rest
termination_by t.length
decreasing_by
  · exact length_of_markAt (by assumption)
  · simp

end ConsentGate.Template
