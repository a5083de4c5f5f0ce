import ConsentGate.Proofs.Identity.Generation
import ConsentGate.Proofs.Template.Rendering

namespace ConsentGate

namespace Attribute

theorem ofName?_name (a : Attribute) : ofName? (.ofString a.name) = some a := by
  cases a <;> decide

theorem eq_name_of_ofName? {name : Text} {a : Attribute} (h : ofName? name = some a) :
    name = .ofString a.name := by
  have hname := List.find?_some h
  exact (of_decide_eq_true hname).symm

end Attribute

namespace Attributes

variable {as as' : Attributes} {a : Attribute} {name : Text}

theorem value_name (as : Attributes) (a : Attribute) : as.value (.ofString a.name) = as.get a := by
  rw [value, Attribute.ofName?_name]
  rfl

theorem value_congr (hother : ∀ b, b ≠ a → as.get b = as'.get b) (hname : name ≠ .ofString a.name) :
    as.value name = as'.value name := by
  rw [value, value]
  cases hb : Attribute.ofName? name with
  | none => rfl
  | some b =>
    have hne : b ≠ a := by
      rintro rfl
      exact hname (Attribute.eq_name_of_ofName? hb)
    rw [Option.map_some, Option.map_some, hother b hne]

end Attributes

namespace Identity

variable {secret template : Text} {t : Template} {a : Attribute} {as as' : Attributes}

theorem generate_congr (h : hashedText template as = hashedText template as') :
    generate secret template as = generate secret template as' := by
  rw [generate, generate, h]

/-- Where two requests differ in one attribute, the texts that are hashed for them differ just if
the template has that attribute, however often and in whatever form. -/
theorem hashedText_follows_attribute (ht : Template.parseWith Attribute.names template = .ok t)
    (hother : ∀ b, b ≠ a → as.get b = as'.get b) (hne : as.get a ≠ as'.get a) :
    ∃ text text', hashedText template as = .ok text ∧ hashedText template as' = .ok text' ∧
      (.ofString a.name ∈ t.names → text ≠ text' ∧
        (∀ bytes, text.encode = .ok bytes → text'.encode ≠ .ok bytes) ∧
        (template.Whole → (as.Whole → ∃ bytes, text.encode = .ok bytes) ∧
          (as'.Whole → ∃ bytes, text'.encode = .ok bytes))) ∧
      (.ofString a.name ∉ t.names → text = text' ∧
        ∀ secret, generate secret template as = generate secret template as') := by
  have htext := hashedText_of_parseWith ht as
  have htext' := hashedText_of_parseWith ht as'
  have hvalues : ∀ n, n ≠ .ofString a.name → as.value n = as'.value n :=
    fun n hn => Attributes.value_congr hother hn
  refine ⟨_, _, htext, htext', ?_, ?_⟩
  · intro hused
    have hvalue : as.value (.ofString a.name) ≠ as'.value (.ofString a.name) := by
      rwa [Attributes.value_name, Attributes.value_name]
    have hrender := Template.render_ne hvalues hused hvalue
    refine ⟨hrender, ?_, ?_⟩
    · intro bytes hbytes hbytes'
      exact hrender (Text.encode_unique hbytes hbytes')
    · intro htemplate
      exact ⟨fun has => Text.exists_encode_iff.mpr (whole_of_hashedText htext htemplate has),
        fun has' => Text.exists_encode_iff.mpr (whole_of_hashedText htext' htemplate has')⟩
  · intro hunused
    have hrender : t.render as.value = t.render as'.value := by
      apply Template.render_congr
      intro n hn
      apply hvalues
      rintro rfl
      exact hunused hn
    refine ⟨hrender, fun secret => generate_congr ?_⟩
    rw [htext, htext', hrender]

/-- The texts of two addresses that come to the same length: what one has more where it is inserted
as it is, the other has more where it is escaped. -/
theorem texts_of_escaped_address :
    let template := Text.ofString "\x7b\x7b\x7bclient_ip\x7d\x7d\x7d\x7b\x7bclient_ip\x7d\x7d"
    let t : Template := [.tag ⟨true, .ofString "client_ip"⟩, .tag ⟨false, .ofString "client_ip"⟩]
    let as : Attributes := { clientIp := "&&" }
    let as' : Attributes := { clientIp := "abcdef" }
    Template.parseWith Attribute.names template = .ok t ∧
      .ofString Attribute.clientIp.name ∈ t.names ∧
      (∀ b, b ≠ .clientIp → as.get b = as'.get b) ∧ as.get .clientIp ≠ as'.get .clientIp ∧
      ∃ text text', hashedText template as = .ok text ∧ hashedText template as' = .ok text' ∧
        text.length = text'.length ∧ text ≠ text' := by
  intro template t as as'
  have ht : Template.parseWith Attribute.names template = .ok t := by decide +kernel
  have hused : .ofString Attribute.clientIp.name ∈ t.names := by decide
  have hother : ∀ b, b ≠ .clientIp → as.get b = as'.get b := by
    intro b hb
    cases b <;> first | rfl | exact absurd rfl hb
  have hne : as.get .clientIp ≠ as'.get .clientIp := by decide
  obtain ⟨text, text', htext, htext', hdiffers, -⟩ := hashedText_follows_attribute ht hother hne
  refine ⟨ht, hused, hother, hne, text, text', htext, htext', ?_, (hdiffers hused).1⟩
  obtain rfl := Except.ok.inj ((hashedText_of_parseWith ht as).symm.trans htext)
  obtain rfl := Except.ok.inj ((hashedText_of_parseWith ht as').symm.trans htext')
  decide

end Identity

end ConsentGate
