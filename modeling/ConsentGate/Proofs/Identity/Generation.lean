import ConsentGate.Proofs.Success
import ConsentGate.Proofs.Template.Grammar
import ConsentGate.Proofs.Text.Encoding
import ConsentGate.Resolver

namespace ConsentGate

namespace Template

variable {t : Template} {value : Text → Text} {allowed : List Text} {source : Text}

theorem whole_render (hliterals : t.literals.Whole) (hvalue : ∀ name, (value name).Whole) :
    (t.render value).Whole := by
  intro p hp
  obtain ⟨part, hpart, hp⟩ := List.mem_flatMap.mp hp
  cases part with
  | literal c =>
    obtain rfl := List.mem_singleton.mp hp
    exact hliterals p (List.mem_filterMap.mpr ⟨_, hpart, rfl⟩)
  | tag tag =>
    rw [Part.render] at hp
    split at hp
    · exact hvalue tag.name p hp
    · exact Html.whole_escape (hvalue tag.name) p hp

theorem literals_subset_of_parseWith (h : parseWith allowed source = .ok t) :
    t.literals ⊆ source := by
  obtain ⟨l, -, rfl, rfl⟩ := Layout.exists_of_parseWith h
  rw [Layout.literals_map_part]
  intro c hc
  obtain ⟨i, hi, hic⟩ := List.mem_filterMap.mp hc
  refine List.mem_flatMap.mpr ⟨i, hi, ?_⟩
  cases i <;> cases hic
  exact List.mem_singleton_self c

end Template

namespace Resolver

def defaultParts : Template :=
  (Attribute.all.map fun a => .tag ⟨false, .ofString a.name⟩).intersperse (.literal (.scalar ':'))

theorem parseWith_defaultTemplate :
    Template.parseWith Attribute.names defaultTemplate = .ok defaultParts := by
  decide +kernel

end Resolver

def Attributes.Whole (as : Attributes) : Prop := ∀ a, (as.get a).Whole

instance (as : Attributes) : Decidable as.Whole :=
  decidable_of_iff (∀ a ∈ Attribute.all, (as.get a).Whole)
    ⟨fun h a => h a a.mem_all, fun h a _ => h a⟩

namespace Identity

variable {secret template : Text} {as : Attributes} {t : Template} {id : String}

theorem whole_value (has : as.Whole) (name : Text) : (as.value name).Whole := by
  unfold Attributes.value
  cases Attribute.ofName? name with
  | none => exact nofun
  | some a => exact has a

theorem hashedText_of_parseWith (ht : Template.parseWith Attribute.names template = .ok t)
    (as : Attributes) : hashedText template as = .ok (t.render as.value) := by
  rw [hashedText, ht]
  rfl

theorem whole_of_hashedText {text : Text} (h : hashedText template as = .ok text)
    (htemplate : template.Whole) (has : as.Whole) : text.Whole := by
  obtain ⟨t, ht, htext⟩ := bind_eq_ok_iff.mp h
  obtain rfl := pure_eq_ok_iff.mp htext
  refine Template.whole_render ?_ (whole_value has)
  exact fun p hp => htemplate p (Template.literals_subset_of_parseWith ht hp)

/-- An id is the tag of a text under a secret, both of which have bytes. -/
theorem generate_eq_ok_iff :
    generate secret template as = .ok id ↔
      secret ≠ [] ∧ ∃ t key message, Template.parseWith Attribute.names template = .ok t ∧
        secret.encode = .ok key ∧ (t.render as.value).encode = .ok message ∧
          Hmac.hexTag key message = id := by
  simp only [generate, hashedText, unless_eq_ok_iff, bind_eq_ok_iff, mapError_eq_ok_iff,
    pure_eq_ok_iff, List.isEmpty_iff]
  constructor
  · rintro ⟨hsecret, _, ⟨t, ht, rfl⟩, key, hkey, message, hmessage, rfl⟩
    exact ⟨hsecret, t, key, message, ht, hkey, hmessage, rfl⟩
  · rintro ⟨hsecret, t, key, message, ht, hkey, hmessage, rfl⟩
    exact ⟨hsecret, _, ⟨t, ht, rfl⟩, key, hkey, message, hmessage, rfl⟩

theorem generate_of_render {key text : List Char} (hkey : key ≠ [])
    (ht : Template.parseWith Attribute.names template = .ok t)
    (htext : t.render as.value = .ofChars text) :
    generate (.ofChars key) template as = .ok (Hmac.hexTag (Text.utf8 key) (Text.utf8 text)) := by
  refine generate_eq_ok_iff.mpr ⟨?_, t, _, _, ht, Text.encode_ofChars key, ?_, rfl⟩
  · exact fun h => hkey (List.map_eq_nil_iff.mp h)
  · rw [htext, Text.encode_ofChars]

theorem ne_nil_of_generate (h : generate secret template as = .ok id) : Text.ofString id ≠ [] := by
  obtain ⟨_, _, key, message, _, _, _, rfl⟩ := generate_eq_ok_iff.mp h
  intro hempty
  have hlength := Hmac.length_hexTag key message
  rw [← String.length_toList, List.map_eq_nil_iff.mp hempty] at hlength
  cases hlength

theorem narrow_of_generate (h : generate secret template as = .ok id) :
    (Text.ofString id).Narrow := by
  obtain ⟨_, _, key, message, _, _, _, rfl⟩ := generate_eq_ok_iff.mp h
  rw [Text.ofString, Text.narrow_ofChars, Hmac.hexTag, String.toList_ofList]
  intro c hc
  obtain ⟨b, _, hc⟩ := List.mem_flatMap.mp hc
  have hb : b.toNat < 256 := b.toNat_lt
  have hdigit : ∀ k < 16, (Nat.digitChar k).toNat ≤ 0xFF := by decide
  rcases List.mem_pair.mp hc with rfl | rfl
  · exact hdigit _ (by omega)
  · exact hdigit _ (by omega)

/-- With a secret and a template that can be used, only a surrogate in them or in an attribute is in
the way of an id. -/
theorem exists_generate (hsecret : secret ≠ []) (hkey : secret.Whole)
    (ht : Template.parseWith Attribute.names template = .ok t) (htemplate : template.Whole)
    (has : as.Whole) : ∃ id, generate secret template as = .ok id := by
  have htext : (t.render as.value).Whole :=
    whole_of_hashedText (hashedText_of_parseWith ht as) htemplate has
  obtain ⟨key, hkey⟩ := Text.exists_encode_iff.mpr hkey
  obtain ⟨message, hmessage⟩ := Text.exists_encode_iff.mpr htext
  exact ⟨_, generate_eq_ok_iff.mpr ⟨hsecret, t, key, message, ht, hkey, hmessage, rfl⟩⟩

end Identity

end ConsentGate
