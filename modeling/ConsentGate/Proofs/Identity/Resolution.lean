import ConsentGate.Proofs.Identity.Generation
import ConsentGate.Resolver

namespace ConsentGate.Resolver

variable {r : Resolver} {secret template headerName cookieName : Text} {s : Signals}
  {as : Attributes} {id : Text} {digits : String} {identity : Identity}

theorem make_eq_ok_iff :
    make secret template headerName cookieName = .ok r ↔
      secret ≠ [] ∧ (∃ t, Template.parseWith Attribute.names template = .ok t) ∧
        ⟨secret, template, headerName, cookieName⟩ = r := by
  simp only [make, unless_eq_ok_iff, bind_eq_ok_iff, mapError_eq_ok_iff, pure_eq_ok_iff,
    List.isEmpty_iff, exists_and_right]

/-- The id that a request brings along, in its header or else in its cookie. -/
def propagated (r : Resolver) (s : Signals) : Option Identity :=
  ((nonEmpty (s.header r.headerName)).map (⟨·, .fromHeader⟩)).or
    ((nonEmpty (s.cookie r.cookieName)).map (⟨·, .fromCookie⟩))

theorem nonEmpty_eq_some_iff {value : Option Text} :
    nonEmpty value = some id ↔ value = some id ∧ id ≠ [] := by
  rw [nonEmpty, Option.filter_eq_some_iff]
  simp

theorem ne_of_propagated (h : r.propagated s = some identity) :
    identity.value ≠ [] ∧ identity.provenance ≠ .generated := by
  rw [propagated, Option.or_eq_some_iff, Option.map_eq_some_iff, Option.map_eq_some_iff] at h
  rcases h with ⟨id, hid, rfl⟩ | ⟨_, id, hid, rfl⟩ <;>
    exact ⟨(nonEmpty_eq_some_iff.mp hid).2, nofun⟩

theorem propagated_of_header (h : s.header r.headerName = some id) (hne : id ≠ []) :
    r.propagated s = some ⟨id, .fromHeader⟩ := by
  rw [propagated, nonEmpty_eq_some_iff.mpr ⟨h, hne⟩]
  rfl

theorem propagated_of_cookie (hheader : nonEmpty (s.header r.headerName) = none)
    (h : s.cookie r.cookieName = some id) (hne : id ≠ []) :
    r.propagated s = some ⟨id, .fromCookie⟩ := by
  rw [propagated, hheader, nonEmpty_eq_some_iff.mpr ⟨h, hne⟩]
  rfl

theorem result_freshId :
    (r.freshId as).result = (Identity.generate r.secret r.template as).map Text.ofString := by
  simp only [freshId, Logged.result_bind, Logged.result_ofExcept, Logged.result_log,
    Logged.result_pure, Except.bind]
  cases Identity.generate r.secret r.template as <;> rfl

theorem result_resolve :
    (r.resolve s as).result =
      (r.propagated s).elim
        ((Identity.generate r.secret r.template as).map fun digits => ⟨.ofString digits, .generated⟩)
        .ok := by
  unfold resolve propagated
  cases nonEmpty (s.header r.headerName) with
  | some id => rfl
  | none =>
    cases nonEmpty (s.cookie r.cookieName) with
    | some id => rfl
    | none =>
      simp only [Logged.result_bind, result_freshId, Logged.result_log, Logged.result_pure,
        Except.bind]
      cases Identity.generate r.secret r.template as <;> rfl

theorem result_resolve_of_generate (h : Identity.generate r.secret r.template as = .ok digits) :
    (r.resolve s as).result = .ok ((r.propagated s).getD ⟨.ofString digits, .generated⟩) := by
  rw [result_resolve, h]
  cases r.propagated s <;> rfl

theorem getD_propagated (h : id ≠ []) :
    ((r.propagated s).getD ⟨id, .generated⟩).value ≠ [] ∧
      (((r.propagated s).getD ⟨id, .generated⟩).provenance = .generated →
        ((r.propagated s).getD ⟨id, .generated⟩).value = id) := by
  cases hp : r.propagated s with
  | none => exact ⟨h, fun _ => rfl⟩
  | some identity =>
    obtain ⟨hvalue, hprovenance⟩ := ne_of_propagated hp
    exact ⟨hvalue, fun hgenerated => absurd hgenerated hprovenance⟩

end ConsentGate.Resolver
