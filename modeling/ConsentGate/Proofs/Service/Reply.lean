import ConsentGate.Proofs.Http.Cookie
import ConsentGate.Proofs.Identity.Generation
import ConsentGate.Service

namespace ConsentGate

namespace Http

namespace Request

variable {r : Request} {name t : Text}

theorem whole_of_header (h : r.signals.header name = some t) : t.Whole := by
  rw [signals, Signals.ofParts, Signals.header, Signals.lowerNames, OrderedMap.lookup_ofPairs] at h
  obtain ⟨_, hp, hname⟩ := List.mem_map.mp (List.mem_reverse.mp (OrderedMap.mem_of_lookup h))
  obtain ⟨p, _, rfl⟩ := List.mem_map.mp hp
  obtain ⟨-, rfl⟩ := Prod.mk.inj hname
  exact Text.whole_ofChars _

theorem whole_of_cookie (h : r.signals.cookie name = some t) : t.Whole := by
  obtain ⟨p, _, hname⟩ := List.mem_map.mp (OrderedMap.mem_of_lookup h)
  obtain ⟨-, rfl⟩ := Prod.mk.inj hname
  exact Text.whole_ofChars _

theorem whole_of_signal {a : Attribute} (h : Attributes.signal r.signals a = some t) : t.Whole := by
  cases a with
  | clientIp =>
    obtain ⟨s, _, rfl⟩ := Option.map_eq_some_iff.mp h
    exact Text.whole_ofChars _
  | firstPartyId => exact whole_of_cookie h
  | acceptLanguage =>
    obtain ⟨t, ht, rfl⟩ := Option.map_eq_some_iff.mp h
    exact fun p hp => whole_of_header ht p (List.takeWhile_sublist _ |>.subset hp)
  | userAgent | authUserId | publisherDomain => exact whole_of_header h

/-- What a request brings over the wire has no broken text. -/
theorem whole_signals (r : Request) : (Attributes.ofSignals r.signals).Whole := by
  intro a
  rw [Attributes.get_ofSignals]
  cases h : Attributes.signal r.signals a with
  | none => cases a <;> decide
  | some t => exact whole_of_signal h

end Request

namespace Reply

def header? (r : Reply) (name : String) : Option Text := r.headers.lookup name

/-- The id that a client stores when it gets the reply. -/
def storedId? (r : Reply) : Option Text :=
  ((r.header? "set-cookie").bind Cookies.ofSetting).bind fun p =>
    if p.1 = Resolver.defaultCookie then some p.2 else none

end Reply

end Http

namespace Service

open Http

variable {domain : Text} {d : Decision} {r reply : Reply}

theorem send_eq_ok_iff : send r = .ok reply ↔ reply = r ∧ ∀ field ∈ r.headers, field.2.Narrow := by
  have hunsendable : r.unsendable? = none ↔ ∀ field ∈ r.headers, field.2.Narrow := by
    rw [Reply.unsendable?, List.findSome?_eq_none_iff]
    exact forall₂_congr fun _ _ => Text.narrow_iff.symm
  rw [← hunsendable, send]
  cases r.unsendable? <;> simp [eq_comm]

theorem eq_of_send (h : send r = .ok reply) : reply = r := (send_eq_ok_iff.mp h).1

theorem header_decisionReply (domain : Text) (d : Decision) :
    (decisionReply domain d).header? Resolver.defaultHeader =
        (if d.allowed = true then some d.syntheticId else none) ∧
      (decisionReply domain d).header? "set-cookie" =
        if d.allowed = true ∧ d.deviceAccess = true then
          some (Cookies.setting Resolver.defaultCookie d.syntheticId domain)
        else none := by
  unfold decisionReply identityHeaders Reply.header?
  cases d.allowed with
  | false => simp [List.lookup_cons, Resolver.defaultHeader]
  | true =>
    cases d.deviceAccess <;> cases d.freshId <;> simp [List.lookup_cons, Resolver.defaultHeader]

theorem narrow_of_send (h : send (decisionReply domain d) = .ok reply)
    (hallowed : d.allowed = true) : d.syntheticId.Narrow := by
  refine (send_eq_ok_iff.mp h).2 (Resolver.defaultHeader, d.syntheticId) ?_
  unfold decisionReply identityHeaders
  rw [if_pos hallowed]
  simp [Resolver.defaultHeader]

theorem storedId?_of_withheld (domain : Text) (h : ¬(d.allowed = true ∧ d.deviceAccess = true)) :
    (decisionReply domain d).storedId? = none := by
  rw [Reply.storedId?, (header_decisionReply domain d).2, if_neg h]
  rfl

/-- The id that is stored is the one that the decision gives, if it comes as whole characters. -/
theorem ofSetting_of_granted (domain : Text) (hallowed : d.allowed = true)
    (haccess : d.deviceAccess = true) (hid : d.syntheticId.Whole) :
    ((decisionReply domain d).header? "set-cookie").bind Cookies.ofSetting =
      some (Resolver.defaultCookie, d.syntheticId) := by
  rw [(header_decisionReply domain d).2, if_pos ⟨hallowed, haccess⟩, Option.bind_some]
  exact Cookies.ofSetting_setting (by decide) (List.all_eq_true.mp rfl) hid domain

theorem storedId?_of_granted (domain : Text) (hallowed : d.allowed = true)
    (haccess : d.deviceAccess = true) (hid : d.syntheticId.Whole) :
    (decisionReply domain d).storedId? = some d.syntheticId := by
  rw [Reply.storedId?, ofSetting_of_granted domain hallowed haccess hid, Option.bind_some,
    if_pos rfl]

theorem send_decisionReply (hdomain : domain.Narrow) (hid : d.syntheticId.Narrow)
    (hfresh : ∀ fresh ∈ d.freshId, fresh.Narrow) :
    send (decisionReply domain d) = .ok (decisionReply domain d) := by
  have hcookie : (Cookies.setting Resolver.defaultCookie d.syntheticId domain).Narrow :=
    Cookies.narrow_setting (Text.narrow_iff.mpr rfl) hid hdomain
  have hids : ∀ field ∈ identityHeaders domain d, field.2.Narrow := by
    unfold identityHeaders
    split
    · rintro field hfield
      rw [List.mem_append, List.mem_append] at hfield
      rcases hfield with (hfield | hfield) | hfield
      · obtain ⟨fresh, hmem, rfl⟩ := Option.map_eq_some_iff.mp (Option.mem_toList.mp hfield)
        exact hfresh fresh hmem
      · rw [List.mem_singleton.mp hfield]
        exact hid
      · split at hfield
        · rw [List.mem_singleton.mp hfield]
          exact hcookie
        · cases hfield
    · exact nofun
  refine send_eq_ok_iff.mpr ⟨rfl, ?_⟩
  refine List.forall_mem_cons.mpr ⟨?_, List.forall_mem_append.mpr ⟨hids, ?_⟩⟩
  · split <;> exact Text.narrow_iff.mpr rfl
  · rintro field hfield
    rw [List.mem_singleton.mp hfield]
    exact Text.narrow_iff.mpr rfl

end Service

end ConsentGate
