import ConsentGate.Proofs.Template.Layout
import ConsentGate.Proofs.Template.Scanning

namespace ConsentGate.Template

variable {allowed : List Text} {source : Text} {pieces : List Piece} {t : Template} {l l' : Layout}

theorem hasBracePair_eq_false_iff {t : Text} :
    hasBracePair t = false ↔ ∀ b, isBrace b = true → ¬[b, b] <:+: t := by
  induction t with
  | nil => simp [hasBracePair]
  | cons a t ih =>
    cases t with
    | nil => simp [hasBracePair, List.infix_cons_iff]
    | cons c t =>
      rw [hasBracePair, Bool.or_eq_false_iff, ih]
      simp only [List.infix_cons_iff (a := a), List.cons_prefix_cons, not_or]
      constructor
      · rintro ⟨hhead, htail⟩ b hb
        refine ⟨?_, htail b hb⟩
        rintro ⟨rfl, rfl, -⟩
        simp [hb] at hhead
      · intro h
        refine ⟨?_, fun b hb => (h b hb).2⟩
        rw [Bool.and_eq_false_iff, decide_eq_false_iff_not]
        by_cases ha : isBrace a = true
        · exact .inr fun hac => (h a ha).1 ⟨rfl, hac, List.nil_prefix⟩
        · exact .inl (eq_false_of_ne_true ha)

namespace Layout

variable {c : CodePoint} {p : Placeholder}

theorem markAt_text_placeholder (hp : p.WellFormed)
    (hafter : p.triple = false → closing ∉ l.text.head?) :
    markAt (text (.placeholder p :: l)) = some (p.mark, l.text) :=
  markAt_eq_some_iff.mpr ⟨rfl, Placeholder.body_plain hp, hafter⟩

theorem markAt_text_literal (hapart : Apart (.literal c :: l))
    (hpair : ¬[opening, opening] <:+: literals (.literal c :: l)) :
    markAt (text (.literal c :: l)) = none := by
  by_cases hc : c = opening
  · subst hc
    cases l with
    | nil => exact markAt_eq_none nofun
    | cons i l =>
      cases i with
      | literal c' =>
        refine markAt_eq_none fun _ hc' => hpair ?_
        cases hc'
        exact (List.prefix_append [opening, opening] (literals l)).isInfix
      | placeholder p =>
        -- Two braces with a third before them would not be apart.
        have htriple : p.triple = true := by
          by_contra hp
          exact (hapart [.literal opening] p l rfl (eq_false_of_ne_true hp)).1 rfl
        rw [text_cons, text_cons, Item.text, Item.text, Placeholder.text, htriple]
        exact markAt_four_openings
  · exact markAt_eq_none fun h => absurd h hc

theorem scan_text (hwf : ∀ i ∈ l, i.WellFormed) (hapart : l.Apart)
    (hpair : ¬[opening, opening] <:+: l.literals) : scan l.text = l.map Item.piece := by
  induction l with
  | nil => exact scan_nil
  | cons i l ih =>
    obtain ⟨hi, hl⟩ := List.forall_mem_cons.mp hwf
    have htail := ih hl hapart.tail
    cases i with
    | literal c =>
      rw [List.map_cons, Item.piece, ← htail fun h => hpair (List.infix_cons h)]
      exact scan_of_not_markAt (markAt_text_literal hapart hpair)
    | placeholder p =>
      rw [List.map_cons, Item.piece, ← htail hpair]
      have hafter : p.triple = false → closing ∉ (text l).head? :=
        fun hp => (hapart [] p l rfl hp).2
      exact scan_of_markAt (markAt_text_placeholder hi hafter)

theorem text_eq_of_scan (h : scan source = l.map Item.piece) : l.text = source := by
  induction l generalizing source with
  | nil => exact (scan_eq_nil h).symm
  | cons i l ih =>
    cases i with
    | literal c =>
      obtain ⟨rest, rfl, -, hrest⟩ := scan_eq_plain_cons h
      rw [text_cons, ih hrest]
      rfl
    | placeholder p =>
      obtain ⟨rest, hread, hrest⟩ := scan_eq_mark_cons h
      obtain ⟨rfl, -⟩ := markAt_eq_some_iff.mp hread
      rw [text_cons, ih hrest]
      rfl

theorem apart_of_scan (h : scan source = l.map Item.piece) : l.Apart := by
  induction l generalizing source with
  | nil => exact apart_nil
  | cons i l ih =>
    cases i with
    | literal c =>
      obtain ⟨rest, rfl, hnone, hrest⟩ := scan_eq_plain_cons h
      refine (ih hrest).cons ?_ nofun
      rintro p after rfl hp hc
      cases hc
      -- The mark would have begun one brace earlier.
      obtain ⟨r, hread, -⟩ := scan_eq_mark_cons hrest
      cases hnone.symm.trans (markAt_opening_cons hread hp)
    | placeholder p =>
      obtain ⟨rest, hread, hrest⟩ := scan_eq_mark_cons h
      obtain ⟨-, -, hafter⟩ := markAt_eq_some_iff.mp hread
      rw [← text_eq_of_scan hrest] at hafter
      refine (ih hrest).cons ?_ ?_
      · intro q after _ _ hlast
        cases (Item.getLast?_text_placeholder p).symm.trans hlast
      · rintro q hq hdouble
        cases hq
        exact hafter hdouble

theorem eq_of_map_piece_eq (hwf : ∀ i ∈ l, i.WellFormed)
    (hwf' : ∀ i ∈ l', i.WellFormed)
    (h : l.map Item.piece = l'.map Item.piece) : l = l' := by
  induction l generalizing l' with
  | nil => exact (List.map_eq_nil_iff.mp h.symm).symm
  | cons i l ih =>
    cases l' with
    | nil => cases h
    | cons j l' =>
      obtain ⟨hpiece, hrest⟩ := List.cons_eq_cons.mp h
      obtain ⟨hi, hl⟩ := List.forall_mem_cons.mp hwf
      obtain ⟨hj, hl'⟩ := List.forall_mem_cons.mp hwf'
      have htail := ih hl hl' hrest
      have hhead : i = j := by
        cases i with
        | literal c =>
          cases j <;> cases hpiece
          rfl
        | placeholder p =>
          cases j with
          | literal c => cases hpiece
          | placeholder q =>
            have hmark : p.mark = q.mark := Piece.mark.inj hpiece
            rw [Placeholder.eq_of_mark_eq hi hj hmark]
      rw [hhead, htail]

end Layout

theorem Piece.check_eq_ok_iff {piece : Piece} {part : Part}
    (hplain : ∀ m, piece = .mark m → ∀ c ∈ m.body, isBrace c = false) :
    piece.check = .ok part ↔
      ∃ i : Item, i.WellFormed ∧ i.piece = piece ∧ i.part = part := by
  cases piece with
  | plain c =>
    constructor
    · intro h
      cases h
      exact ⟨.literal c, trivial, rfl, rfl⟩
    · rintro ⟨i, -, hpiece, rfl⟩
      cases i <;> cases hpiece
      rfl
  | mark m =>
    constructor
    · intro h
      simp only [check] at h
      split at h
      · cases h
      · next hbalanced =>
        split at h
        · cases h
        · next hname =>
          cases h
          obtain ⟨p, hp, rfl, hpname⟩ := Placeholder.exists_of_mark (by simpa using hbalanced)
            (by simpa using hname) (hplain m rfl)
          refine ⟨.placeholder p, hp, rfl, ?_⟩
          rw [Item.part, hpname]
          rfl
    · rintro ⟨i, hi, hpiece, rfl⟩
      cases i with
      | literal c => cases hpiece
      | placeholder p =>
        cases hpiece
        have hp : p.WellFormed := hi
        have hname : p.mark.name.isEmpty = false := by
          rw [Placeholder.name_mark hp, List.isEmpty_eq_false_iff]
          exact hp.name_ne_nil
        have hbalanced : p.mark.opensTriple = p.mark.closesTriple := rfl
        rw [check, hbalanced, bne_self_eq_false, hname, Placeholder.name_mark hp]
        rfl

theorem checkAll_cons_eq_ok_iff {piece : Piece} :
    checkAll (piece :: pieces) = .ok t ↔
      ∃ part rest, piece.check = .ok part ∧ checkAll pieces = .ok rest ∧ t = part :: rest := by
  rw [checkAll]
  cases hpiece : piece.check with
  | error e => simp [bind, Except.bind]
  | ok part =>
    cases hrest : checkAll pieces with
    | error e => simp [bind, Except.bind]
    | ok rest => simp [bind, Except.bind, pure, Except.pure, eq_comm]

theorem checkAll_eq_ok_iff (hplain : ∀ m, .mark m ∈ pieces → ∀ c ∈ m.body, isBrace c = false) :
    checkAll pieces = .ok t ↔
      ∃ l : Layout, (∀ i ∈ l, i.WellFormed) ∧ l.map Item.piece = pieces ∧
        l.map Item.part = t := by
  induction pieces generalizing t with
  | nil =>
    constructor
    · intro h
      cases h
      exact ⟨[], nofun, rfl, rfl⟩
    · rintro ⟨l, -, hpieces, rfl⟩
      obtain rfl := List.map_eq_nil_iff.mp hpieces
      rfl
  | cons piece pieces ih =>
    have ih := fun t => ih (t := t) fun m hm => hplain m (List.mem_cons_of_mem _ hm)
    have hcheck : ∀ part, piece.check = .ok part ↔
        ∃ i : Item, i.WellFormed ∧ i.piece = piece ∧ i.part = part :=
      fun _ => Piece.check_eq_ok_iff fun m hm => hplain m (hm ▸ List.mem_cons_self)
    rw [checkAll_cons_eq_ok_iff]
    constructor
    · rintro ⟨part, rest, hpart, hrest, rfl⟩
      obtain ⟨i, hi, rfl, rfl⟩ := (hcheck part).mp hpart
      obtain ⟨l, hl, rfl, rfl⟩ := (ih rest).mp hrest
      exact ⟨i :: l, List.forall_mem_cons.mpr ⟨hi, hl⟩, rfl, rfl⟩
    · rintro ⟨l, hl, hpieces, rfl⟩
      cases l with
      | nil => cases hpieces
      | cons i l =>
        obtain ⟨rfl, rfl⟩ := List.cons_eq_cons.mp hpieces
        obtain ⟨hi, hrest⟩ := List.forall_mem_cons.mp hl
        exact ⟨i.part, l.map Item.part, (hcheck _).mpr ⟨i, hi, rfl, rfl⟩,
          (ih _).mpr ⟨l, hrest, rfl, rfl⟩, rfl⟩

theorem parse_eq_ok_iff :
    parse source = .ok t ↔ checkAll (scan source) = .ok t ∧ hasBracePair t.literals = false := by
  cases hcheck : checkAll (scan source) with
  | error e => simp [parse, hcheck, bind, Except.bind]
  | ok t' =>
    have hparse : parse source =
        if hasBracePair t'.literals then .error .strayBraces else .ok t' := by
      rw [parse, hcheck]
      change (if hasBracePair t'.literals then _ else _) = _
      split <;> rfl
    rw [hparse]
    grind

theorem parseWith_eq_ok_iff :
    parseWith allowed source = .ok t ↔
      parse source = .ok t ∧ ∀ name ∈ t.names, name ∈ allowed := by
  cases hparse : parse source with
  | error e => simp [parseWith, hparse, bind, Except.bind]
  | ok t' =>
    have hunknown : (t'.names.filter (!allowed.contains ·)).isEmpty = true ↔
        ∀ name ∈ t'.names, name ∈ allowed := by
      simp only [List.isEmpty_iff, List.filter_eq_nil_iff, Bool.not_eq_true, Bool.not_eq_false',
        List.contains_iff_mem]
    rw [parseWith, hparse]
    change (if _ then .ok t' else .error _) = Except.ok t ↔ _
    grind

theorem lookup_of_mem_keys {values : OrderedMap Text Text} {name : Text} (h : name ∈ values.keys) :
    values.lookup name = some (valueIn values name) := by
  obtain ⟨p, hmem, rfl⟩ := List.mem_map.mp h
  have hsome : (values.lookup p.1).isSome = true :=
    List.lookup_isSome_iff.mpr ⟨p, hmem, beq_self_eq_true p.1⟩
  obtain ⟨v, hv⟩ := Option.isSome_iff_exists.mp hsome
  rw [valueIn, hv]
  rfl

namespace Layout

theorem exists_of_parseWith (h : parseWith allowed source = .ok t) :
    ∃ l : Layout, l.Correct allowed ∧ l.text = source ∧ l.map Item.part = t := by
  obtain ⟨hparse, hnames⟩ := parseWith_eq_ok_iff.mp h
  obtain ⟨hcheck, hpair⟩ := parse_eq_ok_iff.mp hparse
  obtain ⟨l, hwf, hscan, rfl⟩ :=
    (checkAll_eq_ok_iff fun m hm => body_plain_of_mem_scan hm).mp hcheck
  rw [names_map_part] at hnames
  rw [literals_map_part] at hpair
  exact ⟨l, ⟨hwf, hnames, apart_of_scan hscan.symm, hasBracePair_eq_false_iff.mp hpair⟩,
    text_eq_of_scan hscan.symm, rfl⟩

theorem Correct.scan_text (h : l.Correct allowed) : scan l.text = l.map Item.piece :=
  Layout.scan_text h.wellFormed h.apart (h.no_pair opening (by decide))

theorem Correct.parseWith_text (h : l.Correct allowed) :
    parseWith allowed l.text = .ok (l.map Item.part) := by
  rw [parseWith_eq_ok_iff, parse_eq_ok_iff, names_map_part, literals_map_part]
  refine ⟨⟨?_, hasBracePair_eq_false_iff.mpr h.no_pair⟩, h.names_allowed⟩
  exact (checkAll_eq_ok_iff fun m hm => body_plain_of_mem_scan hm).mpr
    ⟨l, h.wellFormed, h.scan_text.symm, rfl⟩

theorem Correct.eq_of_text_eq (h : l.Correct allowed) (h' : l'.Correct allowed)
    (htext : l.text = l'.text) : l = l' := by
  apply eq_of_map_piece_eq h.wellFormed h'.wellFormed
  rw [← h.scan_text, ← h'.scan_text, htext]

/-- A template is accepted just if it has a correct layout, which is then the only one, and each
value goes where its placeholder stands, whatever the value is. -/
theorem parseWith_iff_layout (allowed : List Text) (source : Text) :
    (∀ names, (∃ t, parseWith allowed source = .ok t ∧ t.names = names) ↔
      ∃ l : Layout, l.Correct allowed ∧ l.text = source ∧ l.names = names) ∧
    (∀ l l' : Layout, l.Correct allowed → l.text = source → l'.Correct allowed →
      l'.text = source → l = l') ∧
    ((∃ e, parseWith allowed source = .error e) ↔
      ∀ l : Layout, l.Correct allowed → l.text ≠ source) ∧
    ∀ (values : OrderedMap Text Text) (l : Layout), l.Correct values.keys → l.text = source →
      (∀ name ∈ l.names, values.lookup name = some (valueIn values name)) ∧
        renderSource source values = .ok (l.render (valueIn values)) := by
  refine ⟨?_, ?_, ?_, ?_⟩
  · intro names
    constructor
    · rintro ⟨t, ht, rfl⟩
      obtain ⟨l, hl, htext, rfl⟩ := exists_of_parseWith ht
      exact ⟨l, hl, htext, (names_map_part l).symm⟩
    · rintro ⟨l, hl, rfl, rfl⟩
      exact ⟨l.map Item.part, hl.parseWith_text, names_map_part l⟩
  · rintro l l' hl rfl hl' htext
    exact hl.eq_of_text_eq hl' htext.symm
  · constructor
    · rintro ⟨e, he⟩ l hl rfl
      cases he.symm.trans hl.parseWith_text
    · intro hnone
      cases hparse : parseWith allowed source with
      | error e => exact ⟨e, rfl⟩
      | ok t =>
        obtain ⟨l, hl, htext, -⟩ := exists_of_parseWith hparse
        exact absurd htext (hnone l hl)
  · rintro values l hl rfl
    refine ⟨fun name hname => lookup_of_mem_keys (hl.names_allowed name hname), ?_⟩
    rw [renderSource, hl.parseWith_text, ← render_map_part]
    rfl

theorem rendered_between_literal_braces :
    let a := Text.ofString "a"
    let b := Text.ofString "b"
    let l : Layout := [.literal opening, .placeholder ⟨true, [], a, []⟩, .literal closing,
      .placeholder ⟨false, Text.ofString " ", b, []⟩]
    let values := [(a, Text.ofString "<\x7b\x7bb\x7d\x7d>"), (b, Text.ofString "\x7b\x7ba\x7d\x7d&")]
    l.Correct (OrderedMap.keys values) ∧
      l.text = Text.ofString "\x7b\x7b\x7b\x7ba\x7d\x7d\x7d\x7d\x7b\x7b b\x7d\x7d" ∧
      renderSource (Text.ofString "\x7b\x7b\x7b\x7ba\x7d\x7d\x7d\x7d\x7b\x7b b\x7d\x7d") values =
        .ok (Text.ofString "\x7b<\x7b\x7bb\x7d\x7d>\x7d\x7b\x7ba\x7d\x7d&amp;") := by
  intro a b l values
  have hl : l.Correct (OrderedMap.keys values) := by
    refine ⟨?_, by decide, ?_, hasBracePair_eq_false_iff.mp rfl⟩
    · simp only [l, List.forall_mem_cons, Item.WellFormed, true_and]
      refine ⟨?_, ?_, nofun⟩ <;> constructor <;> decide
    · have hlast : Apart [.placeholder ⟨false, Text.ofString " ", b, []⟩] :=
        apart_nil.cons nofun fun _ _ _ => nofun
      apply Apart.cons
      · apply Apart.cons
        · apply hlast.cons
          · rintro p after ⟨⟩ -
            decide
          · nofun
        · nofun
        · rintro p ⟨⟩ ⟨⟩
      · rintro p after ⟨⟩ ⟨⟩
      · nofun
  have htext : l.text = Text.ofString "\x7b\x7b\x7b\x7ba\x7d\x7d\x7d\x7d\x7b\x7b b\x7d\x7d" := by decide
  obtain ⟨-, -, -, hrender⟩ := parseWith_iff_layout (OrderedMap.keys values) l.text
  obtain ⟨-, hrendered⟩ := hrender values l hl rfl
  refine ⟨hl, htext, ?_⟩
  rw [← htext, hrendered]
  rfl

end Layout

end ConsentGate.Template
