import ConsentGate.Proofs.Identity.Sensitivity
import ConsentGate.Proofs.Text.Joining

namespace ConsentGate

abbrev colon : CodePoint := .scalar ':'

namespace Attribute

/-- Where two counts come to the same in total they differ for no attribute or for two at least. -/
theorem eq_of_sum_eq {f g : Attribute → Nat} (hsum : (all.map f).sum = (all.map g).sum)
    (hone : ∀ a b, f a ≠ g a → f b ≠ g b → a = b) (a : Attribute) : f a = g a := by
  by_contra ha
  have hother : ∀ b, b ≠ a → f b = g b := by
    intro b hb
    by_contra hne
    exact hb (hone b a hne ha)
  have hrest : (all.erase a).map f = (all.erase a).map g := by
    apply List.map_congr_left
    intro b hb
    have hnodup : all.Nodup := by decide
    exact hother b (hnodup.mem_erase_iff.mp hb).1
  have hperm := List.perm_cons_erase (mem_all a)
  have hf := (hperm.map f).sum_nat
  have hg := (hperm.map g).sum_nat
  rw [List.map_cons, List.sum_cons] at hf hg
  rw [hrest] at hf
  omega

end Attribute

namespace Attributes

variable {as as' : Attributes}

theorem eq_of_get (h : ∀ a, as.get a = as'.get a) : as = as' := by
  cases as
  cases as'
  congr
  · exact h .clientIp
  · exact h .userAgent
  · exact h .firstPartyId
  · exact h .authUserId
  · exact h .publisherDomain
  · exact h .acceptLanguage

/-- All the values in their order, with a colon between each two. -/
def joined (as : Attributes) : Text := [colon].intercalate (Attribute.all.map as.get)

def colons (as : Attributes) (a : Attribute) : Nat := (as.get a).count colon

theorem eq_of_joined_eq (hcolons : ∀ a, as.colons a = as'.colons a) (h : as.joined = as'.joined) :
    as = as' := by
  have hcount : (Attribute.all.map as.get).map (·.count colon) =
      (Attribute.all.map as'.get).map (·.count colon) := by
    rw [List.map_map, List.map_map]
    exact List.map_congr_left fun a _ => hcolons a
  have htexts := List.map_inj_left.mp (eq_of_intercalate_eq hcount h)
  exact eq_of_get fun a => htexts a (Attribute.mem_all a)

theorem count_joined (as : Attributes) :
    as.joined.count colon = (Attribute.all.map as.colons).sum + 5 :=
  count_intercalate_cons _ _

end Attributes

namespace Identity

variable {as as' : Attributes}

def escapedTag (a : Attribute) : Template.Part := .tag ⟨false, .ofString a.name⟩

theorem render_escapedTag (as : Attributes) (a : Attribute) :
    (escapedTag a).render as.value = Html.escape (as.get a) := by
  rw [← Attributes.value_name]
  rfl

theorem render_intersperse_tags (as : Attributes) (attributes : List Attribute) :
    Template.render as.value ((attributes.map escapedTag).intersperse (.literal colon)) =
      Html.escape ([colon].intercalate (attributes.map as.get)) := by
  have hcolon : Html.escape [colon] = [colon] := by decide
  induction attributes with
  | nil => rfl
  | cons a attributes ih =>
    cases attributes with
    | nil =>
      rw [List.map_singleton, List.map_singleton, List.intersperse_singleton, Template.render_cons,
        render_escapedTag, List.intercalate_singleton]
      exact List.append_nil _
    | cons b attributes =>
      simp only [List.map_cons] at ih ⊢
      rw [List.intersperse_cons_cons, Template.render_cons, Template.render_cons, render_escapedTag, ih,
        List.intercalate_cons_cons, Html.escape_append, Html.escape_append, hcolon, List.append_assoc]
      rfl

/-- No colon is escaped, so what is hashed is the joined values, escaped as a whole. -/
theorem hashedText_default (as : Attributes) :
    hashedText Resolver.defaultTemplate as = .ok (Html.escape as.joined) := by
  rw [hashedText_of_parseWith Resolver.parseWith_defaultTemplate]
  exact congrArg Except.ok (render_intersperse_tags as Attribute.all)

theorem exists_message_of_generate {secret template text : Text} {id : String}
    (htext : hashedText template as = .ok text) (h : generate secret template as = .ok id) :
    ∃ key message, secret.encode = .ok key ∧ text.encode = .ok message ∧
      Hmac.hexTag key message = id := by
  obtain ⟨-, t, key, message, ht, hkey, hmessage, hid⟩ := generate_eq_ok_iff.mp h
  obtain rfl := Except.ok.inj ((hashedText_of_parseWith ht as).symm.trans htext)
  exact ⟨key, message, hkey, hmessage, hid⟩

/-- Under the default template the hashed texts of two requests are the same just if their values
are the same once they are joined by colons. If they differ at all, this takes two attributes at
least of which the values have not the same number of colons. Otherwise only a collision of the hash
gives one id. -/
theorem default_texts_equal_iff (as as' : Attributes) :
    ∃ text text', hashedText Resolver.defaultTemplate as = .ok text ∧
      hashedText Resolver.defaultTemplate as' = .ok text' ∧
      (text = text' ↔ as.joined = as'.joined) ∧
      (as ≠ as' → (∀ a b, as.colons a ≠ as'.colons a → as.colons b ≠ as'.colons b → a = b) →
        text ≠ text') ∧
      (text ≠ text' → ∀ secret id, generate secret Resolver.defaultTemplate as = .ok id →
        generate secret Resolver.defaultTemplate as' = .ok id →
          ∃ key message message', text.encode = .ok message ∧ text'.encode = .ok message' ∧
            message ≠ message' ∧ Hmac.hexTag key message = Hmac.hexTag key message') := by
  have htext := hashedText_default as
  have htext' := hashedText_default as'
  have hiff : Html.escape as.joined = Html.escape as'.joined ↔ as.joined = as'.joined :=
    Html.escape_injective.eq_iff
  refine ⟨_, _, htext, htext', hiff, ?_, ?_⟩
  · intro hne hone heq
    have hjoined := hiff.mp heq
    have hcount := congrArg (List.count colon) hjoined
    rw [Attributes.count_joined, Attributes.count_joined] at hcount
    have hcolons := Attribute.eq_of_sum_eq (Nat.add_right_cancel hcount) hone
    exact hne (Attributes.eq_of_joined_eq hcolons hjoined)
  · intro hne secret id hid hid'
    obtain ⟨key, message, hkey, hmessage, htag⟩ := exists_message_of_generate htext hid
    obtain ⟨key', message', hkey', hmessage', htag'⟩ := exists_message_of_generate htext' hid'
    obtain rfl := Except.ok.inj (hkey.symm.trans hkey')
    refine ⟨key, message, message', hmessage, hmessage', ?_, htag.trans htag'.symm⟩
    rintro rfl
    exact hne (Text.encode_unique hmessage hmessage')

/-- Addresses with unlike numbers of colons, as long as no other value has another number of them.
-/
theorem texts_of_addresses_with_colons :
    let as : Attributes := { clientIp := "2001:db8::1", userAgent := "curl" }
    let as' : Attributes := { clientIp := "::1", userAgent := "2001 curl" }
    as ≠ as' ∧ (∀ a b, as.colons a ≠ as'.colons a → as.colons b ≠ as'.colons b → a = b) ∧
      as.colons .clientIp ≠ as'.colons .clientIp ∧
      ∃ text text', hashedText Resolver.defaultTemplate as = .ok text ∧
        hashedText Resolver.defaultTemplate as' = .ok text' ∧ text ≠ text' := by
  intro as as'
  have hne : as ≠ as' := by decide
  have hone : ∀ a b, as.colons a ≠ as'.colons a → as.colons b ≠ as'.colons b → a = b := by
    have hother : ∀ a, as.colons a ≠ as'.colons a → a = .clientIp := by
      intro a
      cases a <;> decide
    exact fun a b ha hb => (hother a ha).trans (hother b hb).symm
  obtain ⟨text, text', htext, htext', -, hdiffers, -⟩ := default_texts_equal_iff as as'
  exact ⟨hne, hone, by decide, text, text', htext, htext', hdiffers hne hone⟩

/-- A port may stand at the end of the address or at the beginning of the user agent. -/
theorem port_in_address_or_agent :
    let as : Attributes := { clientIp := "10.0.0.1:443", userAgent := "Mozilla/5.0" }
    let as' : Attributes := { clientIp := "10.0.0.1", userAgent := "443:Mozilla/5.0" }
    as ≠ as' ∧ ∃ text, hashedText Resolver.defaultTemplate as = .ok text ∧
      hashedText Resolver.defaultTemplate as' = .ok text := by
  intro as as'
  have hjoined : as.joined = as'.joined := by decide
  refine ⟨by decide, _, hashedText_default as, ?_⟩
  rw [hashedText_default, hjoined]

end Identity

end ConsentGate
