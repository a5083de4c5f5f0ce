import ConsentGate.Consent.Decoding
import ConsentGate.Proofs.Schema.Reading
import Mathlib.Data.List.Induction
import Mathlib.Data.Rat.Defs
import Mathlib.Tactic.IntervalCases

namespace ConsentGate

namespace Schema

theorem dropSignedZeros_of_not_digit {c : Char} (h : c.isDigit = false) :
    dropSignedZeros [c] = none := by
  by_cases hminus : c = '-'
  · subst hminus
    rfl
  · have hzero : c ≠ '0' := by
      rintro rfl
      cases h
    rw [dropSignedZeros]
    · simp [dropZeros, hzero, h]
    · intro rest hrest
      exact hminus (List.cons.inj hrest).1

theorem bareDigits?_of_not_digit {c : Char} (h : c.isDigit = false) :
    bareDigits? c.toString = none := by
  have htrim : trim isSpace [c] = [] ∨ trim isSpace [c] = [c] := by
    by_cases hc : isSpace c = true <;> simp [trim, trimEnd, List.dropWhile, hc]
  have hplus : dropPlus [c] = some [] ∨ dropPlus [c] = some [c] := by
    by_cases hc : c = '+'
    · subst hc
      exact .inl rfl
    · refine .inr ?_
      unfold dropPlus
      split <;> simp_all
  have hempty : dropSignedZeros [] = none := rfl
  simp only [bareDigits?, Char.toString_eq_singleton, String.toList_singleton]
  rcases htrim with ht | ht
  · simp [ht, dropPlus, hempty]
  · rcases hplus with hp | hp <;> simp [ht, hp, hempty, dropSignedZeros_of_not_digit h]

theorem readsInt_toString_iff {c : Char} : ReadsInt (.string c.toString) ↔ c.isDigit = true := by
  constructor
  · rintro ⟨i, hi⟩
    by_contra hc
    simp only [Bool.not_eq_true] at hc
    simp only [readInt, intOfString, bareDigits?_of_not_digit hc] at hi
    split at hi <;> cases hi
  · intro hc
    have hbounds : 48 ≤ c.toNat ∧ c.toNat ≤ 57 := by
      simpa [Char.isDigit, UInt32.le_iff_toNat_le] using hc
    obtain ⟨hl, hu⟩ := hbounds
    rw [← Char.ofNat_toNat c]
    interval_cases c.toNat <;> exact ⟨_, rfl⟩

end Schema

namespace Decoded

open Schema

theorem sameKey_iff {a b : Json} : sameKey a b = true ↔ ∃ k, key? a = some k ∧ key? b = some k := by
  simp [sameKey, Option.any_eq_true]

theorem sameKey_trans {a b c : Json} (hab : sameKey a b = true) (hbc : sameKey b c = true) :
    sameKey a c = true := by
  obtain ⟨k, ha, hb⟩ := sameKey_iff.mp hab
  obtain ⟨k', hb', hc⟩ := sameKey_iff.mp hbc
  obtain rfl : k = k' := Option.some.inj (hb.symm.trans hb')
  exact sameKey_iff.mpr ⟨k, ha, hc⟩

theorem eq_of_sameKey_of_text? {j k : Json} {t : Text} (hj : j.text? = some t)
    (h : sameKey j k = true) : k = j := by
  obtain ⟨key, hkey, hk⟩ := sameKey_iff.mp h
  cases j with
  | string | brokenString =>
    cases hkey
    cases k <;> simp_all [key?, number?]
  | _ => cases hj

theorem key?_of_readInt {j : Json} {i : Int} (h : readInt j = .value i) :
    key? j = some (.number i) ∨ ∃ s, j = .string s := by
  cases j with
  | bool b => cases b <;> cases h <;> exact .inl rfl
  | int n =>
    cases h
    exact .inl rfl
  | decimal d =>
    refine .inl ?_
    simp only [readInt, intOfDecimal] at h
    split at h
    · cases h
    · next r hr =>
      split at h
      · cases h
      · next hint =>
        split at h
        · cases h
        · cases h
          have hden : r.den = 1 := by simpa [Rat.isInt] using hint
          simp [key?, number?, hr, Rat.coe_int_num_of_den_eq_one hden]
  | string s => exact .inr ⟨s, rfl⟩
  | _ => cases h

theorem readInt_unique {a b : Json} {i n : Int} (h : sameKey a b = true)
    (ha : readInt a = .value i) (hb : readInt b = .value n) : i = n := by
  obtain ⟨k, hka, hkb⟩ := sameKey_iff.mp h
  rcases key?_of_readInt ha with hi | ⟨s, rfl⟩
  · rcases key?_of_readInt hb with hn | ⟨s, rfl⟩
    · rw [hi] at hka
      rw [hn, ← hka] at hkb
      simpa using hkb.symm
    · cases hkb
      rw [hi] at hka
      cases hka
  · rw [eq_of_sameKey_of_text? rfl h, ha] at hb
    exact Reading.value.inj hb

section

variable {keys js : List Json} {j k : Json} {i : Int}

/-- The keys that are left of the values stand for all of them. -/
structure Represents (keys js : List Json) : Prop where
  sub : ∀ k ∈ keys, k ∈ js
  covers : ∀ j ∈ js, ∃ k ∈ keys, k = j ∨ sameKey j k = true

theorem mem_addKey (h : k ∈ addKey keys j) : k ∈ keys ∨ k = j := by
  unfold addKey at h
  split at h
  · exact .inl h
  · simpa using h

theorem subset_addKey (h : k ∈ keys) : k ∈ addKey keys j := by
  unfold addKey
  split
  · exact h
  · exact List.mem_append_left _ h

theorem addKey_covers (keys : List Json) (j : Json) :
    ∃ k ∈ addKey keys j, k = j ∨ sameKey j k = true := by
  unfold addKey
  split
  · next h =>
    obtain ⟨k, hk, hsame⟩ := List.any_eq_true.mp h
    exact ⟨k, hk, .inr hsame⟩
  · exact ⟨j, by simp, .inl rfl⟩

theorem represents_foldl_addKey (js : List Json) : Represents (js.foldl addKey []) js := by
  induction js using List.reverseRecOn with
  | nil => exact ⟨by simp, by simp⟩
  | append_singleton js j ih =>
    rw [List.foldl_append, List.foldl_cons, List.foldl_nil]
    constructor
    · intro k hk
      rcases mem_addKey hk with hk | rfl
      · exact List.mem_append_left _ (ih.sub k hk)
      · simp
    · intro j' hj'
      rcases List.mem_append.mp hj' with hj' | hj'
      · obtain ⟨k, hk, hsame⟩ := ih.covers j' hj'
        exact ⟨k, subset_addKey hk, hsame⟩
      · obtain rfl := List.mem_singleton.mp hj'
        exact addKey_covers _ _

theorem Represents.exists_readInt_iff (h : Represents keys js) (hread : ∀ k ∈ keys, ReadsInt k) :
    (∃ k ∈ keys, readInt k = .value i) ↔ ∃ j ∈ js, readInt j = .value i := by
  constructor
  · rintro ⟨k, hk, hi⟩
    exact ⟨k, h.sub k hk, hi⟩
  · rintro ⟨j, hj, hi⟩
    obtain ⟨k, hk, rfl | hsame⟩ := h.covers j hj
    · exact ⟨k, hk, hi⟩
    · obtain ⟨n, hn⟩ := hread k hk
      obtain rfl := readInt_unique hsame hi hn
      exact ⟨k, hk, hn⟩

def IsAtom : Json → Prop
  | .array _ | .object _ => False
  | _ => True

theorem isAtom_of_readsInt (h : ReadsInt j) : IsAtom j := by
  obtain ⟨i, hi⟩ := h
  cases j <;> trivial

theorem isAtom_of_sameKey (h : sameKey j k = true) : IsAtom j := by
  obtain ⟨key, hj, _⟩ := sameKey_iff.mp h
  cases j <;> trivial

theorem collect_eq_ok_iff {ks : List Json} :
    collect keys js = .ok ks ↔ (∀ j ∈ js, IsAtom j) ∧ js.foldl addKey keys = ks := by
  induction js generalizing keys with
  | nil => simp [collect]
  | cons j rest ih =>
    cases j <;> simp [collect, IsAtom, ih]

/-- Each value reads as an integer, or is the same key as a value before it that does. -/
def ReadOrRepeat (js : List Json) : Prop :=
  ∀ before j after, js = before ++ j :: after →
    ReadsInt j ∨ ∃ k ∈ before, sameKey j k = true ∧ ReadsInt k

theorem readOrRepeat_of_forall (h : ∀ j ∈ js, ReadsInt j) : ReadOrRepeat js := by
  intro before j after hsplit
  exact .inl (h j (by simp [hsplit]))

theorem readOrRepeat_concat :
    ReadOrRepeat (js ++ [j]) ↔
      ReadOrRepeat js ∧ (ReadsInt j ∨ ∃ k ∈ js, sameKey j k = true ∧ ReadsInt k) := by
  constructor
  · intro h
    refine ⟨?_, h js j [] rfl⟩
    intro before a after hsplit
    exact h before a (after ++ [j]) (by simp [hsplit])
  · rintro ⟨hjs, hj⟩ before a after hsplit
    rcases List.eq_nil_or_concat after with rfl | ⟨after', b, rfl⟩
    · obtain ⟨rfl, ha⟩ := List.append_inj' hsplit rfl
      obtain rfl := List.singleton_inj.mp ha
      exact hj
    · have hfront : js ++ [j] = (before ++ a :: after') ++ [b] := by simpa using hsplit
      exact hjs before a after' (List.append_inj' hfront rfl).1

theorem readsInt_addKey_iff (hrep : Represents keys js) (hread : ∀ k ∈ keys, ReadsInt k) :
    (∀ k ∈ addKey keys j, ReadsInt k) ↔
      ReadsInt j ∨ ∃ k ∈ js, sameKey j k = true ∧ ReadsInt k := by
  unfold addKey
  split
  · next h =>
    obtain ⟨k, hk, hsame⟩ := List.any_eq_true.mp h
    exact iff_of_true hread (.inr ⟨k, hrep.sub k hk, hsame, hread k hk⟩)
  · next h =>
    constructor
    · intro hall
      exact .inl (hall j (by simp))
    · rintro (hj | ⟨k, hk, hsame, _⟩)
      · intro k hk
        rcases List.mem_append.mp hk with hk | hk
        · exact hread k hk
        · obtain rfl := List.mem_singleton.mp hk
          exact hj
      · -- a key that stands for `k` would have kept `j` out
        obtain ⟨k', hk', rfl | hsame'⟩ := hrep.covers k hk
        · exact absurd (List.any_eq_true.mpr ⟨k', hk', hsame⟩) h
        · exact absurd (List.any_eq_true.mpr ⟨k', hk', sameKey_trans hsame hsame'⟩) h

theorem readsInt_foldl_addKey_iff (js : List Json) :
    (∀ k ∈ js.foldl addKey [], ReadsInt k) ↔ ReadOrRepeat js := by
  induction js using List.reverseRecOn with
  | nil => simp [ReadOrRepeat]
  | append_singleton js j ih =>
    rw [List.foldl_append, List.foldl_cons, List.foldl_nil, readOrRepeat_concat, ← ih]
    constructor
    · intro h
      have hread : ∀ k ∈ js.foldl addKey [], ReadsInt k := fun k hk => h k (subset_addKey hk)
      exact ⟨hread, (readsInt_addKey_iff (represents_foldl_addKey js) hread).mp h⟩
    · rintro ⟨hread, hj⟩
      exact (readsInt_addKey_iff (represents_foldl_addKey js) hread).mpr hj

theorem exists_collect_iff :
    (∃ ks, collect [] js = .ok ks ∧ ∀ k ∈ ks, ReadsInt k) ↔ ReadOrRepeat js := by
  constructor
  · rintro ⟨ks, hks, hread⟩
    obtain ⟨_, rfl⟩ := collect_eq_ok_iff.mp hks
    exact (readsInt_foldl_addKey_iff js).mp hread
  · intro h
    refine ⟨_, collect_eq_ok_iff.mpr ⟨?_, rfl⟩, (readsInt_foldl_addKey_iff js).mpr h⟩
    intro j hj
    obtain ⟨before, after, rfl⟩ := List.append_of_mem hj
    rcases h before j after rfl with hj | ⟨k, _, hsame, _⟩
    · exact isAtom_of_readsInt hj
    · exact isAtom_of_sameKey hsame

/-- Values of which no two are the same key have to read as integers one by one. -/
theorem readOrRepeat_iff (h : ∀ j ∈ js, ∀ k, sameKey j k = true → k = j) :
    ReadOrRepeat js ↔ ∀ j ∈ js, ReadsInt j := by
  constructor
  · intro hjs j hj
    obtain ⟨before, after, hsplit⟩ := List.append_of_mem hj
    rcases hjs before j after hsplit with hread | ⟨k, _, hsame, hread⟩
    · exact hread
    · rwa [h j hj k hsame] at hread
  · exact readOrRepeat_of_forall

end

end Decoded

end ConsentGate
