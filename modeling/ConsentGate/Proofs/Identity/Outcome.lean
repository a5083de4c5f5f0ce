import ConsentGate.Proofs.Identity.Resolution

namespace ConsentGate

/-- A single place, or the first and the last of several. -/
def SurrogateRun.place (run : SurrogateRun) : String :=
  if run.first = run.last then toString run.first else s!"{run.first}-{run.last}"

namespace IdentityError

theorem message_place (run : SurrogateRun) :
    ∃ codec, (unencodable run).message =
      codec ++ (" in position " ++ run.place ++ ": surrogates not allowed") := by
  have hmessage : (unencodable run).message =
    "Failed to encode synthetic id input: " ++ runMessage run := rfl
  rw [hmessage]
  unfold runMessage SurrogateRun.place
  by_cases h : run.first = run.last
  · have hquote : "' in position " = "'" ++ " in position " := rfl
    rw [if_pos h, if_pos h]
    refine ⟨"Failed to encode synthetic id input: " ++ ("'utf-8' codec can't encode character '" ++
      .ofList (Quoted.escapeNumber (0xD800 + run.head)) ++ "'"), ?_⟩
    change _ ++ (_ ++ _ ++ ("' in position " ++ _ ++ ": surrogates not allowed")) = _
    rw [hquote]
    simp only [String.append_assoc]
  · have hplace : "'utf-8' codec can't encode characters in position " =
      "'utf-8' codec can't encode characters" ++ " in position " := rfl
    have hend : ": surrogates not allowed" = ": " ++ "surrogates not allowed" := rfl
    rw [if_neg h, if_neg h]
    refine ⟨"Failed to encode synthetic id input: " ++ "'utf-8' codec can't encode characters", ?_⟩
    change _ ++ ("'utf-8' codec can't encode characters in position " ++ _ ++ "-" ++ _ ++ ": " ++
      "surrogates not allowed") = _
    rw [hplace, hend]
    simp only [String.append_assoc]
    rfl

end IdentityError

theorem Hmac.mem_hexTag {key message : List UInt8} {c : Char} (h : c ∈ (hexTag key message).toList) :
    c ∈ "0123456789abcdef".toList := by
  rw [hexTag, String.toList_ofList] at h
  obtain ⟨b, _, hc⟩ := List.mem_flatMap.mp h
  have hb : b.toNat < 256 := b.toNat_lt
  have hdigit : ∀ k < 16, Nat.digitChar k ∈ "0123456789abcdef".toList := by decide
  rcases List.mem_pair.mp hc with rfl | rfl
  · exact hdigit _ (by omega)
  · exact hdigit _ (by omega)

namespace Identity

open Template (Layout)

variable {secret template : Text} {as : Attributes} {e : TemplateError} {l : Layout}
  {error : IdentityError} {r : Except IdentityError String}

/-- What an id comes to. Of the things that can be in its way the first one decides. -/
inductive Outcome (secret template : Text) (as : Attributes) :
    Except IdentityError String → Prop where
  | emptySecret (hsecret : secret = []) : Outcome secret template as (.error .emptySecret)
  | template (e : TemplateError) (hsecret : secret ≠ [])
      (hlayout : ∀ l : Layout, l.Correct Attribute.names → l.text ≠ template)
      (he : Template.parseWith Attribute.names template = .error e) :
      Outcome secret template as (.error (.template e))
  | unencodable (l : Layout) (run : SurrogateRun) (hsecret : secret ≠ [])
      (hlayout : l.Correct Attribute.names) (htext : l.text = template)
      (hrun : secret.FirstRun run ∨ secret.Whole ∧ (l.render as.value).FirstRun run) :
      Outcome secret template as (.error (.unencodable run))
  | id (l : Layout) (key text : List Char) (hsecret : secret ≠ [])
      (hlayout : l.Correct Attribute.names) (htext : l.text = template) (hkey : secret = .ofChars key)
      (hrendered : l.render as.value = .ofChars text) :
      Outcome secret template as (.ok (Hmac.hexTag (Text.utf8 key) (Text.utf8 text)))

def tagOf (secret text : Text) : Except IdentityError String := do
  let key ← secret.encode.mapError .unencodable
  let message ← text.encode.mapError .unencodable
  return Hmac.hexTag key message

theorem generate_of_template_error (hsecret : secret ≠ [])
    (he : Template.parseWith Attribute.names template = .error e) (as : Attributes) :
    generate secret template as = .error (.template e) := by
  have hempty : ¬secret.isEmpty = true := fun h => hsecret (List.isEmpty_iff.mp h)
  rw [generate, if_neg hempty, hashedText, he]
  rfl

theorem generate_of_layout (hsecret : secret ≠ []) (hl : l.Correct Attribute.names)
    (as : Attributes) : generate secret l.text as = tagOf secret (l.render as.value) := by
  have hempty : ¬secret.isEmpty = true := fun h => hsecret (List.isEmpty_iff.mp h)
  rw [generate, if_neg hempty, hashedText_of_parseWith hl.parseWith_text,
    Layout.render_map_part]
  rfl

theorem tagOf_of_run {text : Text} {run : SurrogateRun}
    (h : secret.FirstRun run ∨ secret.Whole ∧ text.FirstRun run) :
    tagOf secret text = .error (.unencodable run) := by
  rcases h with hsecret | ⟨hsecret, htext⟩
  · rw [tagOf, Text.encode_eq_error_iff.mpr hsecret]
    rfl
  · obtain ⟨key, hkey⟩ := Text.exists_encode_iff.mpr hsecret
    rw [tagOf, hkey, Text.encode_eq_error_iff.mpr htext]
    rfl

theorem tagOf_ofChars (key text : List Char) :
    tagOf (.ofChars key) (.ofChars text) = .ok (Hmac.hexTag (Text.utf8 key) (Text.utf8 text)) := by
  rw [tagOf, Text.encode_ofChars, Text.encode_ofChars]
  rfl

theorem generate_of_outcome (h : Outcome secret template as r) :
    generate secret template as = r := by
  cases h with
  | emptySecret hsecret =>
    rw [hsecret]
    rfl
  | template e hsecret _ he => exact generate_of_template_error hsecret he as
  | unencodable l run hsecret hlayout htext hrun =>
    rw [← htext, generate_of_layout hsecret hlayout]
    exact tagOf_of_run hrun
  | id l key text hsecret hlayout htext hkey hrendered =>
    rw [← htext, generate_of_layout hsecret hlayout, hkey, hrendered]
    exact tagOf_ofChars key text

theorem exists_outcome (secret template : Text) (as : Attributes) :
    ∃ r, Outcome secret template as r := by
  by_cases hsecret : secret = []
  · exact ⟨_, .emptySecret hsecret⟩
  cases hparse : Template.parseWith Attribute.names template with
  | error e =>
    refine ⟨_, .template e hsecret ?_ hparse⟩
    rintro l hl rfl
    cases hparse.symm.trans hl.parseWith_text
  | ok t =>
    obtain ⟨l, hl, htext, -⟩ := Layout.exists_of_parseWith hparse
    cases hencode : secret.encode with
    | error run =>
      have hrun := Text.encode_eq_error_iff.mp hencode
      exact ⟨_, .unencodable l run hsecret hl htext (.inl hrun)⟩
    | ok bytes =>
      obtain ⟨key, hkey, -⟩ := Text.encode_eq_ok_iff.mp hencode
      cases hmessage : Text.encode (l.render as.value) with
      | error run =>
        have hrun := Text.encode_eq_error_iff.mp hmessage
        have hwhole := Text.exists_encode_iff.mp ⟨bytes, hencode⟩
        exact ⟨_, .unencodable l run hsecret hl htext (.inr ⟨hwhole, hrun⟩)⟩
      | ok message =>
        obtain ⟨text, hrendered, -⟩ := Text.encode_eq_ok_iff.mp hmessage
        exact ⟨_, .id l key text hsecret hl htext hkey hrendered⟩

theorem generate_eq_iff_outcome :
    generate secret template as = r ↔ Outcome secret template as r := by
  refine ⟨?_, generate_of_outcome⟩
  rintro rfl
  obtain ⟨r, h⟩ := exists_outcome secret template as
  rwa [generate_of_outcome h]

theorem kind_iff_of_outcome (h : Outcome secret template as (.error error)) :
    (error.kind = "ConfigurationError" ↔ secret = []) ∧
      (error.kind = "TemplateError" ↔
        secret ≠ [] ∧ ∀ l : Layout, l.Correct Attribute.names → l.text ≠ template) ∧
      (error.kind = "SyntheticIdError" ↔ ∃ run, error = .unencodable run) := by
  cases h with
  | emptySecret hsecret => simp [IdentityError.kind, hsecret]
  | template e hsecret hlayout _ => simpa [IdentityError.kind, hsecret] using hlayout
  | unencodable l run hsecret hlayout htext _ =>
    refine ⟨iff_of_false ?_ hsecret, iff_of_false ?_ fun h => h.2 l hlayout htext,
      iff_of_true rfl ⟨run, rfl⟩⟩
    · simp [IdentityError.kind]
    · simp [IdentityError.kind]

/-- Each request for an id has one outcome. An id is 64 digits, a failure tells by its kind what is
in the way and a surrogate by its place, and once a resolver is made only a surrogate can be in the
way. -/
theorem outcome_of_generate (secret template : Text) (as : Attributes) :
    (∀ r, generate secret template as = r ↔ Outcome secret template as r) ∧
    (∀ id, generate secret template as = .ok id →
      id.length = 64 ∧ ∀ c ∈ id.toList, c ∈ "0123456789abcdef".toList) ∧
    (∀ error, generate secret template as = .error error →
      (error.kind = "ConfigurationError" ↔ secret = []) ∧
      (error.kind = "TemplateError" ↔
        secret ≠ [] ∧ ∀ l : Layout, l.Correct Attribute.names → l.text ≠ template) ∧
      (error.kind = "SyntheticIdError" ↔ ∃ run, error = .unencodable run)) ∧
    (∀ run, ∃ codec, (IdentityError.unencodable run).message =
      codec ++ (" in position " ++ run.place ++ ": surrogates not allowed")) ∧
    ∀ headerName cookieName r, Resolver.make secret template headerName cookieName = .ok r →
      ∀ as' error, (r.freshId as').result = .error error → error.kind = "SyntheticIdError" := by
  refine ⟨fun r => generate_eq_iff_outcome, ?_, ?_, IdentityError.message_place, ?_⟩
  · intro id hid
    obtain ⟨_, _, key, message, _, _, _, rfl⟩ := generate_eq_ok_iff.mp hid
    exact ⟨Hmac.length_hexTag key message, fun c hc => Hmac.mem_hexTag hc⟩
  · intro error herror
    exact kind_iff_of_outcome (generate_eq_iff_outcome.mp herror)
  · intro headerName cookieName r hr as' error herror
    obtain ⟨hsecret, ⟨t, ht⟩, rfl⟩ := Resolver.make_eq_ok_iff.mp hr
    rw [Resolver.result_freshId, map_eq_error_iff, generate_eq_iff_outcome] at herror
    cases herror with
    | emptySecret h => exact absurd h hsecret
    | template e _ _ he => cases ht.symm.trans he
    | unencodable l run => rfl

/-- The places are counted in what is hashed, where the sign of the user agent takes four. -/
theorem run_behind_escaped_sign :
    let template := Text.ofString "\x7b\x7buser_agent\x7d\x7dx" ++ [.surrogate 2]
    let as : Attributes := { userAgent := [.scalar '<', .surrogate 0, .surrogate 1] }
    let error : IdentityError := .unencodable ⟨4, 5, 0⟩
    let secret := Text.ofString "key"
    Outcome secret template as (.error error) ∧ error.kind = "SyntheticIdError" ∧
      ∃ codec, error.message = codec ++ " in position 4-5: surrogates not allowed" := by
  intro template as error secret
  have hgenerate : generate secret template as = .error error := by decide +kernel
  obtain ⟨houtcome, -, hkind, hmessage, -⟩ := outcome_of_generate secret template as
  exact ⟨(houtcome _).mp hgenerate, (hkind error hgenerate).2.2.mpr ⟨_, rfl⟩, hmessage _⟩

end Identity

end ConsentGate
