import ConsentGate.Http.Message
import ConsentGate.Proofs.Text.Encoding
import ConsentGate.Proofs.Text.Trim
import Mathlib.Tactic.IntervalCases

namespace ConsentGate.Http.Cookies

variable {c : Char} {cs : List Char} {k n : Nat}

theorem digitChar_of_lt (h : k < 8) :
    isOctal (Nat.digitChar k) = true ∧ (Nat.digitChar k).toNat = k + 0x30 := by
  interval_cases k <;> decide

theorem digitChar_le_of_lt (h : k < 4) : Nat.digitChar k ≤ '3' := by
  interval_cases k <;> decide

theorem toNat_of_mem_octal {x : Char} (h : x ∈ octal n) : 0x30 ≤ x.toNat ∧ x.toNat < 0x38 := by
  have hdigit : ∀ k, 0x30 ≤ (Nat.digitChar (k % 8)).toNat ∧ (Nat.digitChar (k % 8)).toNat < 0x38 := by
    intro k
    have hlt : k % 8 < 8 := Nat.mod_lt k (by decide)
    rw [(digitChar_of_lt hlt).2]
    omega
  simp only [octal, List.mem_cons, List.not_mem_nil, or_false] at h
  rcases h with rfl | rfl | rfl
  · exact hdigit (n / 64)
  · exact hdigit (n / 8)
  · exact hdigit n

theorem unescape_octal (h : n ≤ 0xFF) (rest : List Char) :
    unescape ('\\' :: octal n ++ rest) = Char.ofNat n :: unescape rest := by
  have hhigh : n / 64 % 8 < 4 := by omega
  obtain ⟨hocta, ha⟩ := digitChar_of_lt (k := n / 64 % 8) (by omega)
  obtain ⟨hoctb, hb⟩ := digitChar_of_lt (k := n / 8 % 8) (by omega)
  obtain ⟨hoctc, hc⟩ := digitChar_of_lt (k := n % 8) (by omega)
  have hvalue : octalValue (Nat.digitChar (n / 64 % 8)) (Nat.digitChar (n / 8 % 8))
      (Nat.digitChar (n % 8)) = n := by
    rw [octalValue, ha, hb, hc]
    omega
  simp only [octal, List.cons_append, List.nil_append, unescape, hocta, hoctb, hoctc,
    digitChar_le_of_lt hhigh, decide_true, Bool.and_self, ↓reduceIte, hvalue]

theorem unescape_backslash (hc : c ≠ '\n') (hoctal : isOctal c = false) (rest : List Char) :
    unescape ('\\' :: c :: rest) = c :: unescape rest := by
  match rest with
  | [] | [_] => simp [unescape, unescapeOne, hc]
  | _ :: _ :: _ => simp [unescape, unescapeOne, hc, hoctal]

theorem unescape_plain (h : c ≠ '\\') (rest : List Char) :
    unescape (c :: rest) = c :: unescape rest := by
  rw [unescape]
  · exact fun _ _ _ _ hc _ => h hc
  · exact fun _ _ hc _ => h hc

theorem isOctal_of_escaped (h : c = '\x22' ∨ c = '\\') : c ≠ '\n' ∧ isOctal c = false := by
  rcases h with rfl | rfl <;> decide

theorem unescape_escape (c : Char) (rest : List Char) :
    unescape (escape c ++ rest) = c :: unescape rest := by
  unfold escape
  by_cases hquoted : c = '\x22' ∨ c = '\\'
  · obtain ⟨hline, hoctal⟩ := isOctal_of_escaped hquoted
    rw [if_pos hquoted]
    exact unescape_backslash hline hoctal rest
  · rw [if_neg hquoted]
    by_cases hplain : (isUnescaped c || Latin1.isWide (.scalar c)) = true
    · rw [if_pos hplain]
      exact unescape_plain (not_or.mp hquoted).2 rest
    · rw [if_neg hplain]
      have hnarrow : c.toNat ≤ 0xFF := by
        rw [Bool.or_eq_true, not_or, Latin1.isWide, decide_eq_true_eq, Nat.not_lt] at hplain
        exact hplain.2
      rw [unescape_octal hnarrow, Char.ofNat_toNat]

theorem unescape_flatMap_escape (cs : List Char) : unescape (cs.flatMap escape) = cs := by
  induction cs with
  | nil => rfl
  | cons c cs ih => rw [List.flatMap_cons, unescape_escape, ih]

theorem isBlank_of_isToken (h : isToken c = true) : isBlank c = false := by
  rcases Bool.or_eq_true_iff.mp h with halnum | hspecial
  · have hrange : 0x30 ≤ c.toNat ∧ c.toNat ≤ 0x7A := by
      delta Char.isAlphanum Char.isAlpha Char.isUpper Char.isLower Char.isDigit at halnum
      simp only [Char.reduceVal, ge_iff_le, UInt32.le_iff_toNat_le, UInt32.reduceToNat,
        Char.toNat_val, Bool.decide_and, Bool.or_eq_true, Bool.and_eq_true,
        decide_eq_true_eq] at halnum
      omega
    simp only [isBlank, Bool.or_eq_false_iff, Bool.and_eq_false_imp, decide_eq_true_eq,
      decide_eq_false_iff_not, beq_eq_false_iff_ne]
    omega
  · have hmem := List.contains_iff_mem.mp hspecial
    have hnone := (List.all_eq_true (p := fun x => !isBlank x)).mp (by decide) c hmem
    rwa [Bool.not_eq_true'] at hnone

theorem ne_of_isToken {x : Char} (h : isToken c = true) (hx : isToken x = false) : c ≠ x := by
  rintro rfl
  rw [h] at hx
  cases hx

/-- The characters of a quoted value that has no surrogates. -/
def quoteChars (cs : List Char) : List Char :=
  if !cs.isEmpty && cs.all isToken then cs else '\x22' :: cs.flatMap escape ++ ['\x22']

theorem quote_ofChars (cs : List Char) : quote (.ofChars cs) = .ofChars (quoteChars cs) := by
  have htoken : (Text.ofChars cs).all isTokenPoint = cs.all isToken := List.all_map
  have hempty : (Text.ofChars cs).isEmpty = cs.isEmpty := List.isEmpty_map
  have hescape : (Text.ofChars cs).flatMap escapePoint = Text.ofChars (cs.flatMap escape) := by
    rw [Text.ofChars, List.flatMap_map, Text.ofChars, List.map_flatMap]
    rfl
  unfold quote quoteChars
  rw [htoken, hempty, hescape]
  split
  · rfl
  · simp

theorem quoteChars_cases (cs : List Char) :
    (cs ≠ [] ∧ (∀ c ∈ cs, isToken c = true) ∧ quoteChars cs = cs) ∨
      quoteChars cs = '\x22' :: cs.flatMap escape ++ ['\x22'] := by
  unfold quoteChars
  split
  · next h =>
    rw [Bool.and_eq_true, List.all_eq_true] at h
    exact .inl ⟨by simpa using h.1, h.2, rfl⟩
  · exact .inr rfl

theorem unquote_quoteChars (cs : List Char) : unquote (quoteChars cs) = cs := by
  rcases quoteChars_cases cs with ⟨hne, htoken, hquote⟩ | hquote
  · obtain ⟨c, rest, rfl⟩ := List.exists_cons_of_ne_nil hne
    have hc : c ≠ '\x22' := ne_of_isToken (htoken c List.mem_cons_self) (by decide)
    rw [hquote, unquote]
    exact fun _ h => hc (List.cons.inj h).1
  · rw [hquote, List.cons_append, unquote]
    simp [unescape_flatMap_escape]

theorem trim_of_isToken (hne : cs ≠ []) (htoken : ∀ c ∈ cs, isToken c = true) :
    trim isBlank cs = cs :=
  trim_eq_self hne (fun c hc => isBlank_of_isToken (htoken c (List.mem_of_head? hc)))
    fun c hc => isBlank_of_isToken (htoken c (List.mem_of_getLast? hc))

theorem trim_quoteChars (cs : List Char) : trim isBlank (quoteChars cs) = quoteChars cs := by
  rcases quoteChars_cases cs with ⟨hne, htoken, hquote⟩ | hquote
  · rw [hquote, trim_of_isToken hne htoken]
  · rw [hquote]
    refine trim_eq_self nofun ?_ ?_
    · rintro c ⟨⟩
      decide
    · intro c hc
      rw [List.getLast?_concat] at hc
      obtain rfl := Option.some.inj hc
      decide

theorem not_mem_escape (c : Char) : ';' ∉ escape c := by
  unfold escape
  by_cases hquoted : c = '\x22' ∨ c = '\\'
  · rw [if_pos hquoted]
    rcases hquoted with rfl | rfl <;> decide
  · rw [if_neg hquoted]
    split
    · next hplain =>
      intro h
      obtain rfl := List.mem_singleton.mp h
      revert hplain
      decide
    · intro h
      rcases List.mem_cons.mp h with h | h
      · revert h
        decide
      · exact absurd (toNat_of_mem_octal h).2 (by decide)

theorem not_mem_quoteChars (cs : List Char) : ';' ∉ quoteChars cs := by
  rcases quoteChars_cases cs with ⟨_, htoken, hquote⟩ | hquote
  · rw [hquote]
    exact fun h => ne_of_isToken (htoken _ h) (by decide) rfl
  · rw [hquote]
    intro h
    rw [List.cons_append, List.mem_cons, List.mem_append, List.mem_flatMap] at h
    rcases h with h | ⟨c, _, h⟩ | h
    · revert h
      decide
    · exact not_mem_escape c h
    · revert h
      decide

theorem narrow_escape (h : c.toNat ≤ 0xFF) : ∀ x ∈ escape c, x.toNat ≤ 0xFF := by
  unfold escape
  split
  · simpa using h
  · split
    · simp [h]
    · intro x hx
      rcases List.mem_cons.mp hx with rfl | hx
      · decide
      · have hdigit := (toNat_of_mem_octal hx).2
        omega

theorem narrow_quoteChars (h : ∀ c ∈ cs, c.toNat ≤ 0xFF) : ∀ c ∈ quoteChars cs, c.toNat ≤ 0xFF := by
  rcases quoteChars_cases cs with ⟨_, _, hquote⟩ | hquote
  · rwa [hquote]
  · have hmark : '\x22'.toNat ≤ 0xFF := by decide
    rw [hquote]
    simp only [List.cons_append, List.mem_cons, List.mem_append, List.mem_flatMap, List.mem_nil_iff,
      or_false]
    rintro x (rfl | ⟨c, hc, hx⟩ | rfl)
    · exact hmark
    · exact narrow_escape (h c hc) x hx
    · exact hmark

variable {name : String}

/-- What a header stores, as it is read when it comes back with a request. -/
def ofSetting (t : Text) : Option (String × Text) :=
  ((Text.chars? (t.takeWhile (· != .scalar ';'))).bind readPart).map fun p => (p.1, .ofString p.2)

theorem setting_ofChars (name : String) (cs : List Char) (domain : Text) :
    ∃ attributes, setting name (.ofChars cs) domain =
      Text.ofChars (name.toList ++ '=' :: quoteChars cs) ++ .scalar ';' :: attributes := by
  unfold setting
  rw [quote_ofChars, Text.ofChars_append, Text.ofChars_cons, Text.ofString, List.append_assoc]
  split <;> exact ⟨_, rfl⟩

theorem readPart_setting (hne : name.toList ≠ []) (htoken : ∀ c ∈ name.toList, isToken c = true)
    (cs : List Char) : readPart (name.toList ++ '=' :: quoteChars cs) = some (name, .ofList cs) := by
  have hbefore : (name.toList ++ '=' :: quoteChars cs).takeWhile (· != '=') = name.toList := by
    rw [List.takeWhile_append_of_pos, List.takeWhile_cons_of_neg, List.append_nil]
    · simp
    · intro c hc
      simpa using ne_of_isToken (htoken c hc) (by decide)
  have hafter : (name.toList ++ '=' :: quoteChars cs).drop (name.toList.length + 1) =
      quoteChars cs := by
    rw [List.drop_append]
    simp
  have hlength : name.toList.length < (name.toList ++ '=' :: quoteChars cs).length := by simp
  have hempty : name.toList.isEmpty = false := by simpa using hne
  simp only [readPart, hbefore, hlength, ↓reduceIte, hafter, trim_of_isToken hne htoken,
    trim_quoteChars, hempty, unquote_quoteChars, Bool.false_and, Bool.false_eq_true,
    String.ofList_toList]

/-- A value that is stored comes back as it is, whatever characters it holds. -/
theorem ofSetting_setting (hne : name.toList ≠ []) (htoken : ∀ c ∈ name.toList, isToken c = true)
    {value : Text} (hvalue : value.Whole) (domain : Text) :
    ofSetting (setting name value domain) = some (name, value) := by
  obtain ⟨cs, rfl⟩ := hvalue.exists_ofChars
  have hpair : ∀ p ∈ Text.ofChars (name.toList ++ '=' :: quoteChars cs),
      (p != .scalar ';') = true := by
    intro p hp
    obtain ⟨c, hc, rfl⟩ := List.mem_map.mp hp
    have hne : c ≠ ';' := by
      rcases List.mem_append.mp hc with hc | hc
      · exact ne_of_isToken (htoken c hc) (by decide)
      · rcases List.mem_cons.mp hc with rfl | hc
        · decide
        · rintro rfl
          exact not_mem_quoteChars _ hc
    simpa using hne
  obtain ⟨attributes, hsetting⟩ := setting_ofChars name cs domain
  rw [ofSetting, hsetting, List.takeWhile_append_of_pos hpair, List.takeWhile_cons_of_neg (by simp),
    List.append_nil, Text.chars?_ofChars, Option.bind_some, readPart_setting hne htoken,
    Option.map_some, Text.ofString, String.toList_ofList]

theorem narrow_setting {value domain : Text} (hname : (Text.ofString name).Narrow)
    (hvalue : value.Narrow) (hdomain : domain.Narrow) : (setting name value domain).Narrow := by
  obtain ⟨cs, rfl⟩ := hvalue.whole.exists_ofChars
  rw [Text.narrow_ofChars] at hvalue
  have hquoted : (quote (.ofChars cs)).Narrow := by
    rw [quote_ofChars]
    exact Text.narrow_ofChars.mpr (narrow_quoteChars hvalue)
  have hattribute : (Text.ofString "; Domain=" ++ domain).Narrow :=
    Text.narrow_append.mpr ⟨Text.narrow_iff.mpr rfl, hdomain⟩
  have hpair : (Text.ofString name ++ .scalar '=' :: quote (.ofChars cs)).Narrow :=
    Text.narrow_append.mpr ⟨hname, List.forall_mem_cons.mpr ⟨by decide, hquoted⟩⟩
  refine Text.narrow_append.mpr ⟨Text.narrow_append.mpr ⟨hpair, ?_⟩, Text.narrow_iff.mpr rfl⟩
  split
  · exact nofun
  · exact hattribute

end ConsentGate.Http.Cookies
