import ConsentGate.Proofs.Gate.Coherence
import ConsentGate.Proofs.Gate.Noninterference

namespace ConsentGate

theorem Logged.events_bind_of_ok {ε α β : Type} {x : Logged ε α} {f : α → Logged ε β} {a : α}
    (h : x.result = .ok a) : (x >>= f).events = x.events ++ (f a).events := by
  obtain ⟨events, result⟩ := x
  cases h
  rfl

namespace Resolver

variable {r r₁ r₂ : Resolver} {s s₁ s₂ : Signals} {as : Attributes} {fresh : Text}

def idEvents (r : Resolver) (s : Signals) (fresh : Text) : List Event :=
  match nonEmpty (s.header r.headerName), nonEmpty (s.cookie r.cookieName) with
  | some id, _ => [.idFromHeader id, .idGenerated fresh]
  | none, some id => [.idFromCookie id, .idGenerated fresh]
  | none, none => [.idGenerated fresh, .idGeneratedForRequest fresh]

theorem idEvents_congr (hheader : s₁.header r₁.headerName = s₂.header r₂.headerName)
    (hcookie : s₁.cookie r₁.cookieName = s₂.cookie r₂.cookieName) (fresh : Text) :
    r₁.idEvents s₁ fresh = r₂.idEvents s₂ fresh := by
  rw [idEvents, idEvents, hheader, hcookie]

theorem events_freshId (h : (r.freshId as).result = .ok fresh) :
    (r.freshId as).events = [.idGenerated fresh] := by
  rw [result_freshId, map_eq_ok_iff] at h
  obtain ⟨digits, hdigits, rfl⟩ := h
  rw [freshId, Logged.events_bind_of_ok hdigits]
  rfl

end Resolver

namespace Gate

open Resolver (nonEmpty)

variable {g g₁ g₂ : Gate} {cache : Option Cache} {now time : Moment} {s s₁ s₂ : Signals}
  {ps : List Int} {d d₁ d₂ : Decision} {fresh : Text}

theorem events_identify (h : g.generated s = .ok fresh) :
    (g.identify s).events = g.resolver.idEvents s fresh := by
  have hfresh : (g.resolver.freshId (.ofSignals s)).result = .ok fresh :=
    Resolver.result_freshId.trans h
  have hlogged : (g.resolver.freshId (.ofSignals s)).events = [.idGenerated fresh] :=
    Resolver.events_freshId hfresh
  unfold identify Resolver.resolve Resolver.idEvents
  cases nonEmpty (s.header g.resolver.headerName) with
  | some id =>
    rw [Logged.events_bind_of_ok rfl, if_neg nofun, Logged.events_bind_of_ok hfresh, hlogged]
    rfl
  | none =>
    cases nonEmpty (s.cookie g.resolver.cookieName) with
    | some id =>
      rw [Logged.events_bind_of_ok rfl, if_neg nofun, Logged.events_bind_of_ok hfresh, hlogged]
      rfl
    | none =>
      have hresolve : (do
          let id ← g.resolver.freshId (.ofSignals s)
          Logged.log (.idGeneratedForRequest id)
          return ⟨id, .generated⟩ : Logged IdentityError Identity).result =
            .ok ⟨fresh, .generated⟩ := by
        rw [Logged.result_bind, hfresh]
        rfl
      rw [Logged.events_bind_of_ok hresolve, if_pos rfl, Logged.events_bind_of_ok hfresh, hlogged]
      rfl

theorem events_judge_of_allowed {c : Consent} {l : Option VendorList}
    (h : (g.verdict ps time c l).allowed = true) (hfresh : g.generated s = .ok fresh) :
    (g.judge s ps time c l).events = g.checkEvents ps c l ++ g.resolver.idEvents s fresh := by
  have hresult : (g.identify s).result = .ok _ := result_identify.trans (congrArg _ hfresh)
  rw [judge, h, if_pos rfl, Logged.events_bind_of_ok hresult, events_identify hfresh]
  exact congrArg _ (List.append_nil _)

/-- The log of a decision: the consent, the checks and, only of an allowed request, its ids. -/
theorem events_evaluate (hd : (g.evaluate cache now s ps time).decision.result = .ok d) :
    (g.evaluate cache now s ps time).decision.events =
      (g.consentFor now s).2 ++
        (g.checkEvents ps (g.consentFor now s).1 (g.listInForce cache) ++
          d.freshId.elim [.personalizationDenied ps g.vendorId (g.consentFor now s).1.gdprApplies]
            (g.resolver.idEvents s)) := by
  have hevents : (g.evaluate cache now s ps time).decision.events =
      (g.consentFor now s).2 ++
        (g.judge s ps time (g.consentFor now s).1 (g.listInForce cache)).events := by
    rw [← list_vendorList g cache now time]
    rfl
  rw [hevents]
  cases hallows : g.allows cache now s ps with
  | true =>
    have hallowed : d.allowed = true := (allowed_eq_allows hd).trans hallows
    obtain ⟨fresh, hfresh, hid, -⟩ := exists_identity_of_allowed hd hallowed
    rw [events_judge_of_allowed hallows hfresh, hid]
    rfl
  | false =>
    obtain rfl := Except.ok.inj ((result_of_not_allows hallows).symm.trans hd)
    rw [judge_of_denied hallows]
    rfl

theorem exists_fresh_of_allows (h : g.allows cache now s ps = true)
    (hfresh : g.generated s = .ok fresh) :
    ∃ d, (g.evaluate cache now s ps time).decision.result = .ok d ∧ d.allowed = true ∧
      d.freshId = some fresh :=
  ⟨_, (result_of_allows h).trans (congrArg _ hfresh), h, rfl⟩

/-- The gates differ in nothing but what they make ids of. -/
structure SameRules (g₁ g₂ : Gate) : Prop where
  decoder : g₁.decoder = g₂.decoder
  vendorId : g₁.vendorId = g₂.vendorId
  validates : g₁.validates = g₂.validates

/-- The requests bring one consent string and the same ids, each where its gate looks for them. -/
structure SameBrought (g₁ g₂ : Gate) (s₁ s₂ : Signals) : Prop where
  consent : s₁.SameConsent s₂
  header : s₁.header g₁.resolver.headerName = s₂.header g₂.resolver.headerName
  cookie : s₁.cookie g₁.resolver.cookieName = s₂.cookie g₂.resolver.cookieName

theorem SameRules.consentFor_eq (hg : g₁.SameRules g₂) (hs : s₁.SameConsent s₂) (now : Moment) :
    g₁.consentFor now s₁ = g₂.consentFor now s₂ := by
  rw [consentFor_congr hs, consentFor, consentFor, hg.decoder]

theorem SameRules.listInForce_eq (hg : g₁.SameRules g₂) (cache : Option Cache) :
    g₁.listInForce cache = g₂.listInForce cache := by
  rw [listInForce, listInForce, hg.validates]

theorem SameRules.isAllowed_eq (hg : g₁.SameRules g₂) (c : Consent) (ps : List Int)
    (l : Option VendorList) : g₁.isAllowed c ps l = g₂.isAllowed c ps l := by
  rw [isAllowed, isAllowed, hg.vendorId]

theorem SameRules.checkEvents_eq (hg : g₁.SameRules g₂) (ps : List Int) (c : Consent)
    (l : Option VendorList) : g₁.checkEvents ps c l = g₂.checkEvents ps c l := by
  simp only [checkEvents, hg.isAllowed_eq, advertisingLevel, hg.vendorId]

theorem SameRules.refreshEvents_eq (hg : g₁.SameRules g₂) (cache : Option Cache)
    (now : Moment) (s₁ s₂ : Signals) (ps : List Int) (time : Moment) :
    (g₁.evaluate cache now s₁ ps time).refreshEvents =
      (g₂.evaluate cache now s₂ ps time).refreshEvents := by
  have hevents : (g₁.vendorList cache now time).2.1 = (g₂.vendorList cache now time).2.1 := by
    unfold vendorList
    rw [hg.validates]
  exact hevents

theorem SameRules.freshId_eq (hg : g₁.SameRules g₂) (hs : s₁.SameConsent s₂)
    (h₁ : (g₁.evaluate cache now s₁ ps time).decision.result = .ok d₁)
    (h₂ : (g₂.evaluate cache now s₂ ps time).decision.result = .ok d₂)
    (hfresh : d₁.allowed = true → d₂.allowed = true → d₁.freshId = d₂.freshId) :
    d₁.freshId = d₂.freshId := by
  have hallows : g₁.allows cache now s₁ ps = g₂.allows cache now s₂ ps := by
    rw [allows, allows, hg.consentFor_eq hs, hg.listInForce_eq, hg.isAllowed_eq]
  cases hallowed : g₂.allows cache now s₂ ps with
  | true =>
    exact hfresh ((allowed_eq_allows h₁).trans (hallows.trans hallowed))
      ((allowed_eq_allows h₂).trans hallowed)
  | false =>
    obtain rfl := Except.ok.inj ((result_of_not_allows (hallows.trans hallowed)).symm.trans h₁)
    obtain rfl := Except.ok.inj ((result_of_not_allows hallowed).symm.trans h₂)
    rfl

/-- The log of a decision tells no more of a request than the consent string and the ids that it
brings, and the fresh one. What that one is made of, and under which secret, does not show. -/
theorem events_reveal_ids_only (hg : g₁.SameRules g₂) (hs : g₁.SameBrought g₂ s₁ s₂)
    (h₁ : (g₁.evaluate cache now s₁ ps time).decision.result = .ok d₁)
    (h₂ : (g₂.evaluate cache now s₂ ps time).decision.result = .ok d₂)
    (hfresh : d₁.allowed = true → d₂.allowed = true → d₁.freshId = d₂.freshId) :
    (g₁.evaluate cache now s₁ ps time).decision.events =
        (g₂.evaluate cache now s₂ ps time).decision.events ∧
      (g₁.evaluate cache now s₁ ps time).refreshEvents =
        (g₂.evaluate cache now s₂ ps time).refreshEvents := by
  have hids : g₁.resolver.idEvents s₁ = g₂.resolver.idEvents s₂ :=
    funext (Resolver.idEvents_congr hs.header hs.cookie)
  refine ⟨?_, hg.refreshEvents_eq cache now s₁ s₂ ps time⟩
  rw [events_evaluate h₁, events_evaluate h₂, hg.consentFor_eq hs.consent, hg.listInForce_eq,
    hg.checkEvents_eq, hg.vendorId, hg.freshId_eq hs.consent h₁ h₂ hfresh, hids]

/-- Two gates whose secrets differ by a zero, which a key is filled up with anyway, make the same id
of the address of one sender and of the user agent of another. -/
theorem events_of_unlike_requests :
    let r₁ : Resolver := ⟨"k", "\x7b\x7bclient_ip\x7d\x7d", "x-id", "id"⟩
    let r₂ : Resolver := ⟨"k\x00", "\x7b\x7buser_agent\x7d\x7d", "x-id", "id"⟩
    let decoder : Decoder := fun _ => .ok (.model ⟨[1], []⟩)
    let g₁ : Gate := ⟨r₁, some decoder, none, false⟩
    let g₂ : Gate := ⟨r₂, some decoder, none, false⟩
    let s₁ : Signals :=
      { cookies := [("euconsent-v2", "t")], clientIp := some (.ofString "10.0.0.1") }
    let s₂ : Signals :=
      { headers := [("user-agent", "10.0.0.1")], cookies := [("euconsent-v2", "t")] }
    let run₁ := g₁.evaluate none ⟨0, some .utc⟩ s₁ [1] ⟨0, some .utc⟩
    let run₂ := g₂.evaluate none ⟨0, some .utc⟩ s₂ [1] ⟨0, some .utc⟩
    g₁.SameRules g₂ ∧ g₁.SameBrought g₂ s₁ s₂ ∧
      (∃ d₁ d₂, run₁.decision.result = .ok d₁ ∧ run₂.decision.result = .ok d₂ ∧
        d₁.allowed = true ∧ d₂.allowed = true ∧ d₁.freshId = d₂.freshId) ∧
      run₁.decision.events = run₂.decision.events ∧ run₁.refreshEvents = run₂.refreshEvents := by
  intro r₁ r₂ decoder g₁ g₂ s₁ s₂ run₁ run₂
  have hheader : s₁.header "x-id" = s₂.header "x-id" := by decide +kernel +revert
  have hparse₁ : Template.parseWith Attribute.names r₁.template =
      .ok [.tag ⟨false, .ofString "client_ip"⟩] := by decide +kernel +revert
  have hparse₂ : Template.parseWith Attribute.names r₂.template =
      .ok [.tag ⟨false, .ofString "user_agent"⟩] := by decide +kernel +revert
  have hrender₁ : Template.render (Attributes.ofSignals s₁).value
      [.tag ⟨false, .ofString "client_ip"⟩] = .ofString "10.0.0.1" := by decide +kernel +revert
  have hrender₂ : Template.render (Attributes.ofSignals s₂).value
      [.tag ⟨false, .ofString "user_agent"⟩] = .ofString "10.0.0.1" := by decide +kernel +revert
  have hkey : Hmac.blockKey (Text.utf8 "k\x00".toList) = Hmac.blockKey (Text.utf8 "k".toList) := by
    decide +kernel
  have hdigits₁ : Identity.generate r₁.secret r₁.template (.ofSignals s₁) =
      .ok (Hmac.hexTag (Text.utf8 "k".toList) (Text.utf8 "10.0.0.1".toList)) :=
    Identity.generate_of_render nofun hparse₁ hrender₁
  have hdigits₂ : Identity.generate r₂.secret r₂.template (.ofSignals s₂) =
      .ok (Hmac.hexTag (Text.utf8 "k\x00".toList) (Text.utf8 "10.0.0.1".toList)) :=
    Identity.generate_of_render nofun hparse₂ hrender₂
  rw [Hmac.hexTag_congr hkey] at hdigits₂
  have hallows₁ : g₁.allows none ⟨0, some .utc⟩ s₁ [1] = true := rfl
  have hallows₂ : g₂.allows none ⟨0, some .utc⟩ s₂ [1] = true := rfl
  obtain ⟨d₁, hd₁, hallowed₁, hfresh₁⟩ : ∃ d, run₁.decision.result = .ok d ∧ d.allowed = true ∧
      d.freshId = some _ := exists_fresh_of_allows hallows₁ (generated_eq_ok hdigits₁)
  obtain ⟨d₂, hd₂, hallowed₂, hfresh₂⟩ : ∃ d, run₂.decision.result = .ok d ∧ d.allowed = true ∧
      d.freshId = some _ := exists_fresh_of_allows hallows₂ (generated_eq_ok hdigits₂)
  have hfresh : d₁.freshId = d₂.freshId := hfresh₁.trans hfresh₂.symm
  have hrules : g₁.SameRules g₂ := ⟨rfl, rfl, rfl⟩
  have hbrought : g₁.SameBrought g₂ s₁ s₂ := ⟨rfl, hheader, rfl⟩
  exact ⟨hrules, hbrought, ⟨d₁, d₂, hd₁, hd₂, hallowed₁, hallowed₂, hfresh⟩,
    events_reveal_ids_only hrules hbrought hd₁ hd₂ fun _ _ => hfresh⟩

end Gate

end ConsentGate
