import ConsentGate.Proofs.Text.Trim
import ConsentGate.Text.Html
import ConsentGate.Text.Latin1
import ConsentGate.Text.Utf8

namespace ConsentGate

namespace Text

variable {t : Text} {i : Nat} {run : SurrogateRun} {bytes : List UInt8}

/-- No half of a pair stands alone. -/
def Whole (t : Text) : Prop := ∀ p ∈ t, p.isSurrogate = false

instance (t : Text) : Decidable t.Whole :=
  inferInstanceAs (Decidable (∀ p ∈ t, p.isSurrogate = false))

theorem whole_ofChars (cs : List Char) : (ofChars cs).Whole := by
  intro p hp
  obtain ⟨c, _, rfl⟩ := List.mem_map.mp hp
  rfl

theorem surrogateRunFrom_eq_none_iff : surrogateRunFrom i t = none ↔ t.Whole := by
  induction t generalizing i with
  | nil => simp [surrogateRunFrom, Whole]
  | cons p t ih =>
    cases p with
    | scalar c =>
      rw [surrogateRunFrom, ih, Whole, Whole, List.forall_mem_cons]
      exact (and_iff_right rfl).symm
    | surrogate h =>
      rw [surrogateRunFrom, Whole, List.forall_mem_cons]
      refine iff_of_false (Option.some_ne_none _) fun hwhole => ?_
      cases hwhole.1

/-- Just a text without surrogates has bytes. -/
theorem exists_encode_iff : (∃ bytes, t.encode = .ok bytes) ↔ t.Whole := by
  rw [← surrogateRunFrom_eq_none_iff (i := 0), encode, surrogateRun?]
  cases surrogateRunFrom 0 t <;> simp

theorem utf8_injective : Function.Injective utf8 := by
  intro cs ds h
  have hbytes : cs.utf8Encode = ds.utf8Encode := congrArg List.toByteArray h
  have hread := congrArg ByteArray.utf8Decode? hbytes
  rw [List.utf8Decode?_utf8Encode, List.utf8Decode?_utf8Encode] at hread
  exact Array.toList_inj.mpr (Option.some.inj hread)

theorem Whole.exists_ofChars (h : t.Whole) : ∃ cs, t = ofChars cs := by
  induction t with
  | nil => exact ⟨[], rfl⟩
  | cons p t ih =>
    obtain ⟨hp, ht⟩ := List.forall_mem_cons.mp h
    obtain ⟨cs, rfl⟩ := ih ht
    cases p with
    | scalar c => exact ⟨c :: cs, rfl⟩
    | surrogate i => cases hp

theorem encode_eq_ok_iff : t.encode = .ok bytes ↔ ∃ cs, t = ofChars cs ∧ utf8 cs = bytes := by
  constructor
  · intro h
    obtain ⟨cs, rfl⟩ := (exists_encode_iff.mp ⟨bytes, h⟩).exists_ofChars
    exact ⟨cs, rfl, Except.ok.inj ((encode_ofChars cs).symm.trans h)⟩
  · rintro ⟨cs, rfl, rfl⟩
    exact encode_ofChars cs

theorem encode_unique {a b : Text} (ha : a.encode = .ok bytes) (hb : b.encode = .ok bytes) :
    a = b := by
  obtain ⟨cs, rfl, rfl⟩ := encode_eq_ok_iff.mp ha
  obtain ⟨ds, rfl, hbytes⟩ := encode_eq_ok_iff.mp hb
  rw [utf8_injective hbytes]

/-- Where the first surrogates stand, if places are counted from a given number on. What comes
before them has none, and they go on as far as there are any. -/
def FirstRunFrom (i : Nat) (t : Text) (run : SurrogateRun) : Prop :=
  ∃ before block after : Text, t = before ++ block ++ after ∧ before.Whole ∧
    (∀ p ∈ block, p.isSurrogate = true) ∧ (∀ p ∈ after.head?, p.isSurrogate = false) ∧
    block.head? = some (.surrogate run.head) ∧ run.first = i + before.length ∧
    run.last + 1 = i + before.length + block.length

def FirstRun (t : Text) (run : SurrogateRun) : Prop := FirstRunFrom 0 t run

theorem surrogateRunFrom_whole_append {before : Text} (h : before.Whole) (i : Nat) (t : Text) :
    surrogateRunFrom i (before ++ t) = surrogateRunFrom (i + before.length) t := by
  induction before generalizing i with
  | nil => rfl
  | cons p before ih =>
    obtain ⟨hp, hbefore⟩ := List.forall_mem_cons.mp h
    cases p with
    | surrogate h => cases hp
    | scalar c =>
      rw [List.cons_append, surrogateRunFrom, ih hbefore, List.length_cons, Nat.add_assoc,
        Nat.add_comm 1]

theorem surrogateRunFrom_of_firstRunFrom (h : FirstRunFrom i t run) :
    surrogateRunFrom i t = some run := by
  obtain ⟨before, block, after, rfl, hbefore, hblock, hafter, hhead, hfirst, hlast⟩ := h
  obtain ⟨rest, rfl⟩ := List.head?_eq_some_iff.mp hhead
  have hrest : (rest ++ after).takeWhile CodePoint.isSurrogate = rest := by
    rw [List.takeWhile_append_of_pos (List.forall_mem_cons.mp hblock).2]
    cases after with
    | nil => exact List.append_nil rest
    | cons p after => simp [hafter p rfl]
  rw [List.length_cons] at hlast
  rw [List.append_assoc, surrogateRunFrom_whole_append hbefore, List.cons_append, surrogateRunFrom,
    hrest]
  obtain ⟨first, last, head⟩ := run
  obtain rfl : first = i + before.length := hfirst
  obtain rfl : last = i + before.length + rest.length := Nat.succ.inj hlast
  rfl

theorem firstRunFrom_of_surrogateRunFrom (h : surrogateRunFrom i t = some run) :
    FirstRunFrom i t run := by
  induction t generalizing i with
  | nil => cases h
  | cons p t ih =>
    cases p with
    | scalar c =>
      obtain ⟨before, block, after, rfl, hbefore, hblock, hafter, hhead, hfirst, hlast⟩ := ih h
      refine ⟨.scalar c :: before, block, after, rfl, List.forall_mem_cons.mpr ⟨rfl, hbefore⟩, hblock,
        hafter, hhead, ?_, ?_⟩
      · rw [List.length_cons]
        omega
      · rw [List.length_cons]
        omega
    | surrogate head =>
      obtain rfl := Option.some.inj h
      refine ⟨[], .surrogate head :: t.takeWhile CodePoint.isSurrogate,
        t.dropWhile CodePoint.isSurrogate, ?_, nofun, ?_, ?_, rfl, rfl, rfl⟩
      · simp
      · refine List.forall_mem_cons.mpr ⟨rfl, ?_⟩
        exact List.all_eq_true.mp List.all_takeWhile
      · exact fun q hq => not_of_mem_head?_dropWhile hq

theorem encode_eq_error_iff : t.encode = .error run ↔ t.FirstRun run := by
  have hrun : surrogateRunFrom 0 t = some run ↔ t.FirstRun run :=
    ⟨firstRunFrom_of_surrogateRunFrom, surrogateRunFrom_of_firstRunFrom⟩
  rw [← hrun, encode, surrogateRun?]
  cases surrogateRunFrom 0 t <;> simp

/-- Each character fits in a byte, as it must in a header. -/
def Narrow (t : Text) : Prop := ∀ p ∈ t, p.toNat ≤ 0xFF

theorem Narrow.whole (h : t.Narrow) : t.Whole := by
  intro p hp
  cases p with
  | scalar c => rfl
  | surrogate i =>
    have hsmall : 0xD800 + i.val ≤ 0xFF := h _ hp
    omega

theorem narrow_append {a b : Text} : (a ++ b).Narrow ↔ a.Narrow ∧ b.Narrow := List.forall_mem_append

theorem narrow_ofChars {cs : List Char} : (ofChars cs).Narrow ↔ ∀ c ∈ cs, c.toNat ≤ 0xFF :=
  List.forall_mem_map

theorem narrow_iff : t.Narrow ↔ Latin1.wideRun? t = none := Latin1.wideRunFrom_eq_none_iff.symm

end Text

theorem Html.whole_escape {t : Text} (h : t.Whole) : (escape t).Whole := by
  intro p hp
  obtain ⟨q, hq, hp⟩ := List.mem_flatMap.mp hp
  cases q with
  | scalar c => exact Text.whole_ofChars (escapeChar c) p hp
  | surrogate i => cases h _ hq

end ConsentGate
