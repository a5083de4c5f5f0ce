import ConsentGate.Proofs.Identity.Resolution

namespace ConsentGate

namespace Signals

/-- The value of the last header that has a name, whatever the case in which either is written. -/
def lastNamed (headers : OrderedMap Text Text) (name : Text) : Option Text :=
  (headers.filter fun h => Case.lowerText h.1 = Case.lowerText name).getLast?.map (·.2)

theorem header_ofParts (headers cookies : OrderedMap Text Text) (clientIp : Option Text)
    (name : Text) : (ofParts headers cookies clientIp).header name = lastNamed headers name := by
  have hheader : (ofParts headers cookies clientIp).header name =
    (lowerNames headers).lookup (Case.lowerText name) := rfl
  rw [hheader, lowerNames, OrderedMap.lookup_ofPairs, ← List.map_reverse, lastNamed,
    List.getLast?_eq_head?_reverse, ← List.filter_reverse, List.head?_filter]
  induction headers.reverse with
  | nil => rfl
  | cons h rest ih =>
    rw [List.map_cons, List.lookup_cons, ih, List.find?_cons]
    by_cases hname : Case.lowerText h.1 = Case.lowerText name
    · simp [hname]
    · have hother : (Case.lowerText name == Case.lowerText h.1) = false :=
        beq_false_of_ne (Ne.symm hname)
      simp [hname, hother]

end Signals

namespace Attributes

theorem firstLanguage_ends (language : Text) :
    ∃ rest, language = firstLanguage language ++ rest ∧
      .scalar ',' ∉ firstLanguage language ∧ ∀ c ∈ rest.head?, c = .scalar ',' := by
  refine ⟨language.dropWhile (· != .scalar ','), ?_, ?_, ?_⟩
  · rw [firstLanguage, List.takeWhile_append_dropWhile]
  · intro hmem
    have hkept := List.all_eq_true.mp List.all_takeWhile _ hmem
    exact absurd hkept (by decide)
  · intro c hc
    have hstop := not_of_mem_head?_dropWhile hc
    simpa using hstop

end Attributes

namespace Resolver

variable {r : Resolver} {s : Signals} {value : Option Text}

theorem nonEmpty_eq_none_iff : nonEmpty value = none ↔ ∀ v ∈ value, v = [] := by
  rw [nonEmpty, Option.filter_eq_none_iff]
  simp

theorem propagated_eq_none (hheader : nonEmpty (s.header r.headerName) = none)
    (hcookie : nonEmpty (s.cookie r.cookieName) = none) : r.propagated s = none := by
  rw [propagated, hheader, hcookie]
  rfl

/-- The last header of the resolver's name comes first and its cookie second, each unless it is
empty. Otherwise an id is derived from attributes, each of which has a signal of its own. -/
theorem resolved_by_precedence (r : Resolver) (headers cookies : OrderedMap Text Text)
    (clientIp : Option Text) (attributes : Option Attributes) :
    let s := Signals.ofParts headers cookies clientIp
    let header := Signals.lastNamed headers
    let result := (r.resolveFor s attributes).result
    (∀ id, header r.headerName = some id → id ≠ [] → result = .ok ⟨id, .fromHeader⟩) ∧
    (∀ id, (∀ v ∈ header r.headerName, v = []) → cookies.lookup r.cookieName = some id → id ≠ [] →
      result = .ok ⟨id, .fromCookie⟩) ∧
    ((∀ v ∈ header r.headerName, v = []) → (∀ v ∈ cookies.lookup r.cookieName, v = []) →
      result = (Identity.generate r.secret r.template (attributes.getD (.ofSignals s))).map
        fun digits => ⟨.ofString digits, .generated⟩) ∧
    r.resolveFor s none = r.resolveFor s (some (.ofSignals s)) ∧
    Attributes.ofSignals s =
      { clientIp := clientIp.getD "unknown"
        userAgent := (header "user-agent").getD "unknown"
        firstPartyId := (cookies.lookup ("pub_userid" : Text)).getD "anonymous"
        authUserId := (header "x-pub-user-id").getD "anonymous"
        publisherDomain := (header "host").getD "unknown.com"
        acceptLanguage := ((header "accept-language").map Attributes.firstLanguage).getD "unknown" } ∧
    ∀ language, ∃ rest, language = Attributes.firstLanguage language ++ rest ∧
      .scalar ',' ∉ Attributes.firstLanguage language ∧ ∀ c ∈ rest.head?, c = .scalar ',' := by
  intro s header result
  have hheader : ∀ name, s.header name = header name :=
    Signals.header_ofParts headers cookies clientIp
  have hresult : result = (r.propagated s).elim
      ((Identity.generate r.secret r.template (attributes.getD (.ofSignals s))).map
        fun digits => ⟨.ofString digits, .generated⟩) .ok := result_resolve
  refine ⟨?_, ?_, ?_, rfl, ?_, Attributes.firstLanguage_ends⟩
  · intro id hid hne
    rw [hresult, propagated_of_header ((hheader _).trans hid) hne]
    rfl
  · intro id hempty hid hne
    rw [← hheader, ← nonEmpty_eq_none_iff] at hempty
    rw [hresult, propagated_of_cookie hempty hid hne]
    rfl
  · intro hempty hcookie
    rw [← hheader, ← nonEmpty_eq_none_iff] at hempty
    rw [hresult, propagated_eq_none hempty (nonEmpty_eq_none_iff.mpr hcookie)]
    rfl
  · simp only [← hheader]
    rfl

/-- Of two headers that differ in case the later one decides, also when it is empty. -/
theorem resolved_by_later_header :
    let r : Resolver := ⟨.ofString "key", .ofString "id", "X-Visitor", "visitor"⟩
    let filled : OrderedMap Text Text := [("x-visitor", ""), ("X-VISITOR", "from header")]
    let emptied : OrderedMap Text Text := [("X-VISITOR", "from header"), ("x-visitor", "")]
    let cookies : OrderedMap Text Text := [("Visitor", "other"), ("visitor", "from cookie")]
    let result (headers cookies : OrderedMap Text Text) :=
      (r.resolveFor (.ofParts headers cookies none) none).result
    result filled cookies = .ok ⟨"from header", .fromHeader⟩ ∧
      result emptied cookies = .ok ⟨"from cookie", .fromCookie⟩ ∧
      result emptied [] =
        (Identity.generate r.secret r.template {}).map
          fun digits => ⟨.ofString digits, .generated⟩ := by
  intro r filled emptied cookies result
  have hfilled : Signals.lastNamed filled r.headerName = some (.ofString "from header") := by
    decide +kernel
  have hemptied : ∀ v ∈ Signals.lastNamed emptied r.headerName, v = [] := by decide +kernel
  have hcookie : cookies.lookup r.cookieName = some (.ofString "from cookie") := by decide
  obtain ⟨hheader, -⟩ := resolved_by_precedence r filled cookies none none
  obtain ⟨-, hcookies, -⟩ := resolved_by_precedence r emptied cookies none none
  obtain ⟨-, -, hgenerated, -⟩ := resolved_by_precedence r emptied [] none none
  have hdefaults : Attributes.ofSignals (.ofParts emptied [] none) = {} := by decide +kernel
  refine ⟨hheader _ hfilled (by decide), hcookies _ hemptied hcookie (by decide), ?_⟩
  exact (hgenerated hemptied nofun).trans (by rw [Option.getD_none, hdefaults])

end Resolver

end ConsentGate
