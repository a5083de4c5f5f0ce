import ConsentGate.Proofs.Gate.Coherence
import ConsentGate.Proofs.Gate.Noninterference
import ConsentGate.Proofs.Gate.Refusal
import ConsentGate.Proofs.Schema.Reading
import ConsentGate.Proofs.Service.Reply

namespace ConsentGate

theorem AdvertisingLevel.atLeast_basicOnly_graded {p b : Bool} :
    (graded p b).atLeast .basicOnly = (p || b) := by
  cases p <;> cases b <;> decide

/-- The body has one field for each part of the decision, in their order. The consent string is in
none. -/
structure Decision.Reported (d : Decision) (body : Json) : Prop where
  names : ∃ fields : Json.Fields, body = .object fields ∧ fields.keys = ["gdpr_applies",
    "requested_purposes", "allowed", "device_access", "advertising_level", "synthetic_id",
    "provenance", "fresh_id", "vendor_id", "vendor_list_version", "evaluated_at"]
  gdprApplies : body.get? "gdpr_applies" = some (.bool d.gdprApplies)
  requestedPurposes : body.get? "requested_purposes" = some (.array (d.requestedPurposes.map .int))
  allowed : body.get? "allowed" = some (.bool d.allowed)
  deviceAccess : body.get? "device_access" = some (.bool d.deviceAccess)
  advertisingLevel : body.get? "advertising_level" = some (.string d.advertisingLevel.name)
  syntheticId : (body.get? "synthetic_id").bind Json.text? = some d.syntheticId
  provenance : body.get? "provenance" = some (d.provenance.elim .null (.string ·.name))
  freshId : ∀ fresh ∈ d.freshId, (body.get? "fresh_id").bind Json.text? = some fresh
  noFreshId : d.freshId = none → body.get? "fresh_id" = some .null
  vendorId : body.get? "vendor_id" = some (d.vendorId.elim .null .int)
  vendorListVersion : body.get? "vendor_list_version" =
    some (d.vendorListVersion.elim .null .int)
  evaluatedAt : body.get? "evaluated_at" = some (.string d.evaluatedAt.toZString)

theorem Decision.reported_publicFields (d : Decision) : d.Reported (.object d.publicFields) := by
  have hoption : ∀ {α : Type} (f : α → Json) (o : Option α), Json.ofOption f o = o.elim .null f :=
    fun f o => by cases o <;> rfl
  constructor
  case names => exact ⟨_, rfl, rfl⟩
  case freshId =>
    intro fresh hfresh
    simp [Json.get?, publicFields, List.lookup_cons, Option.mem_def.mp hfresh, Json.ofOption,
      Json.text?_ofText]
  case noFreshId =>
    intro hnone
    simp [Json.get?, publicFields, List.lookup_cons, hnone, Json.ofOption]
  all_goals
    simp [Json.get?, publicFields, List.lookup_cons, hoption, Json.ints, Json.text?_ofText]

namespace Gate

variable {g : Gate} {cache : Option Cache} {now time : Moment} {s : Signals} {ps qs : List Int}
  {d : Decision}

/-- There is consent to all the purposes and, where a vendor is set, to the vendor, for which the
list in force, where there is one, has each of the purposes. -/
def Permits (g : Gate) (cache : Option Cache) (now : Moment) (s : Signals) (qs : List Int) : Prop :=
  let c := (g.consentFor now s).1
  (∀ q ∈ qs, c.allowsPurpose q = true) ∧ ∀ v ∈ g.vendorId, c.allowsVendor v = true ∧
    ∀ list ∈ g.listInForce cache, list.lists v = true ∧ ∀ q ∈ qs, list.declares v q = true

instance : Decidable (g.Permits cache now s qs) := by
  unfold Permits
  infer_instance

theorem allows_iff_permits : g.allows cache now s qs = true ↔ g.Permits cache now s qs :=
  isAllowed_iff

theorem Permits.mono (h : g.Permits cache now s ps) (hqs : qs ⊆ ps) : g.Permits cache now s qs := by
  obtain ⟨hpurposes, hvendor⟩ := h
  refine ⟨fun q hq => hpurposes q (hqs hq), fun v hv => ?_⟩
  obtain ⟨hallows, hlist⟩ := hvendor v hv
  refine ⟨hallows, fun list hl => ?_⟩
  obtain ⟨hlists, hdeclares⟩ := hlist list hl
  exact ⟨hlists, fun q hq => hdeclares q (hqs hq)⟩

theorem permits_of_evaluate (hd : (g.evaluate cache now s ps time).decision.result = .ok d) :
    (d.allowed = true ↔ g.Permits cache now s ps) ∧
      (d.deviceAccess = true ↔ g.Permits cache now s [1]) ∧
        (d.advertisingLevel.atLeast .basicOnly = true ↔ g.Permits cache now s [2]) := by
  rw [result_evaluate] at hd
  obtain ⟨hallowed, haccess, hlevel⟩ := verdict_of_judge hd
  refine ⟨hallowed ▸ isAllowed_iff, haccess ▸ isAllowed_iff, ?_⟩
  rw [hlevel]
  change (g.advertisingLevel _ _).1.atLeast .basicOnly = true ↔ _
  -- Who may show personalised ads may show basic ones, as their purpose is among the three.
  rw [advertisingLevel_eq, AdvertisingLevel.atLeast_basicOnly_graded, Bool.or_eq_true]
  constructor
  · rintro (h | h)
    · exact (allows_iff_permits.mp h).mono (by decide)
    · exact allows_iff_permits.mp h
  · intro h
    exact .inr (allows_iff_permits.mpr h)

end Gate

namespace Service

open Http

variable {sv : Service} {now : Moment} {r : Request} {ids ps : List Int} {d : Decision}
  {domain : Text} {reply : Reply}

/-- The purposes that a query gives read as these ids, in their order. -/
def Names (r : Request) (ids : List Int) : Prop :=
  ((Query.ofString r.query).values "purposes").map Schema.intOfString = ids.map .value

def effectivePurposes (ids : List Int) : List Int := if ids = [] then [1] else ids

def refusalReply (ps : List Int) (vendorId version : Option Int) (time : Moment) : Reply where
  status := 200
  headers := [("x-consent-advertising", .ofString "false"),
    ("cache-control", .ofString "no-store, private")]
  body := some (.object [("gdpr_applies", .bool false), ("requested_purposes", .ints ps),
    ("allowed", .bool false), ("device_access", .bool false), ("advertising_level", .string "none"),
    ("synthetic_id", .string "non-personalized"), ("provenance", .null), ("fresh_id", .null),
    ("vendor_id", .ofOption .int vendorId), ("vendor_list_version", .ofOption .int version),
    ("evaluated_at", .string time.toZString)])

/-- What a reply tells of a decision, of which the consent string stays out. -/
structure Tells (sv : Service) (now : Moment) (s : Signals) (d : Decision) (reply : Reply) :
    Prop where
  names : (reply.headers.map (·.1)).Nodup
  released : d.allowed = true → ∃ fresh, d.freshId = some fresh ∧
    reply.header? "x-synthetic-fresh" = some fresh ∧
    reply.header? "x-synthetic-trusted-server" = some d.syntheticId
  withheld : d.allowed = false → reply.header? "x-synthetic-fresh" = none ∧
    reply.header? "x-synthetic-trusted-server" = none
  stored : d.allowed = true → sv.gate.Permits (some sv.cache) now s [1] →
    (reply.header? "set-cookie").bind Cookies.ofSetting = some ("synthetic_id", d.syntheticId)
  unstored : ¬(d.allowed = true ∧ sv.gate.Permits (some sv.cache) now s [1]) →
    reply.header? "set-cookie" = none
  advertising : reply.header? "x-consent-advertising" =
    some (.ofString (if sv.gate.Permits (some sv.cache) now s [2] then "true" else "false"))
  body : ∃ body, reply.body = some body ∧ d.Reported body

theorem asksFor_of_names (h : r.destination = .route .decision) (hids : Names r ids) :
    AsksFor r (effectivePurposes ids) := by
  refine ⟨h, Schema.Reading.map_eq_value_iff.mpr ⟨ids, ?_, ?_⟩⟩
  · exact Schema.Reading.eachFrom_eq_value_iff.mpr hids
  · simp only [effectivePurposes, List.isEmpty_iff]
    rfl

theorem exists_decision_of_reply (hasks : AsksFor r ps) (h : (sv.handle now r).2.1 = .ok reply)
    (hstatus : reply.status = 200) :
    ∃ d, (sv.gate.evaluate (some sv.cache) now r.signals ps now).decision.result = .ok d ∧
      send (decisionReply sv.settings.publisher.cookieDomain d) = .ok reply := by
  cases hd : (sv.gate.evaluate (some sv.cache) now r.signals ps now).decision.result with
  | ok d =>
    rw [handle_of_decision hasks hd] at h
    exact ⟨d, rfl, h⟩
  | error e =>
    simp only [handle, hasks.1, decide, hasks.2, hd] at h
    rw [eq_of_send h] at hstatus
    cases hstatus

theorem header_decisionReply_fresh (domain : Text) (d : Decision) :
    (decisionReply domain d).header? "x-synthetic-fresh" =
      if d.allowed = true then d.freshId else none := by
  unfold decisionReply identityHeaders Reply.header?
  cases d.allowed with
  | false => simp [List.lookup_cons]
  | true => cases d.deviceAccess <;> cases d.freshId <;> simp [List.lookup_cons]

theorem names_decisionReply (domain : Text) (d : Decision) :
    ((decisionReply domain d).headers.map (·.1)).Nodup := by
  unfold decisionReply identityHeaders
  cases d.allowed with
  | false => simp
  | true => cases d.deviceAccess <;> cases d.freshId <;> simp

theorem tells_decisionReply {s : Signals}
    (hd : (sv.gate.evaluate (some sv.cache) now s ps now).decision.result = .ok d)
    (hsent : send (decisionReply domain d) = .ok reply) : Tells sv now s d reply := by
  obtain rfl := eq_of_send hsent
  obtain ⟨_, haccess, hadvertising⟩ := Gate.permits_of_evaluate hd
  obtain ⟨htrusted, hcookie⟩ := header_decisionReply domain d
  have hfresh := header_decisionReply_fresh domain d
  refine ⟨names_decisionReply domain d, ?_, ?_, ?_, ?_, ?_, ?_⟩
  · intro hallowed
    obtain ⟨fresh, _, hfreshId, _⟩ := Gate.exists_identity_of_allowed hd hallowed
    rw [if_pos hallowed] at htrusted hfresh
    rw [hfreshId] at hfresh
    exact ⟨fresh, hfreshId, hfresh, htrusted⟩
  · intro hdenied
    rw [hdenied] at htrusted hfresh
    exact ⟨hfresh, htrusted⟩
  · intro hallowed hpermits
    -- What is sent has the id in a header, where nothing but characters of one byte may stand.
    have hid : d.syntheticId.Whole := (narrow_of_send hsent hallowed).whole
    exact ofSetting_of_granted domain hallowed (haccess.mpr hpermits) hid
  · intro hnot
    rw [hcookie, if_neg fun h => hnot ⟨h.1, haccess.mp h.2⟩]
  · simp only [← hadvertising]
    rfl
  · exact ⟨_, rfl, d.reported_publicFields⟩

theorem decisionReply_refusal (domain : Text) (ps : List Int) (vendorId version : Option Int)
    (time : Moment) :
    decisionReply domain (.refusal ps vendorId version time) =
      refusalReply ps vendorId version time :=
  rfl

theorem outcome_of_unparsed (hasks : AsksFor r ps) (hps : ps ≠ [])
    (h : ∀ t, r.signals.cookie Consent.cookieName = some t →
      (Consent.parse now sv.gate.decoder t).1 = none) :
    (sv.handle now r).2.1 = .ok (refusalReply ps sv.gate.vendorId
      ((sv.gate.listInForce (some sv.cache)).map (·.version)) now) := by
  have hd : (sv.gate.evaluate (some sv.cache) now r.signals ps now).decision.result =
      .ok (.refusal ps sv.gate.vendorId
        ((sv.gate.listInForce (some sv.cache)).map (·.version)) now) := by
    rw [Gate.result_evaluate, Gate.consentFor_of_unparsed h]
    exact Gate.result_judge_denied (.inr hps)
  rw [handle_of_decision hasks hd, decisionReply_refusal]
  rfl

theorem outcome_of_issues {found : List Schema.Issue} (h : r.destination = .route .decision)
    (hfound : requestedPurposes (.ofString r.query) = .issues found) :
    (sv.handle now r).2.1 =
      .ok (unreadableReply ((Query.ofString r.query).values "purposes") found) := by
  simp only [handle, h, decide, hfound]
  rfl

theorem effectivePurposes_ne_nil (ids : List Int) : effectivePurposes ids ≠ [] := by
  unfold effectivePurposes
  split
  · exact List.cons_ne_nil _ _
  · next hids => exact hids

/-- A reply has ids as far as the decision allows them. Without a consent that can be read it has
none, and beside the vendor and the list only what the query asks for shows in it. -/
theorem ids_released_by_consent (sv : Service) (now : Moment) (r : Request)
    (h : r.destination = .route .decision) :
    (∀ ids reply, Names r ids → (sv.handle now r).2.1 = .ok reply → reply.status = 200 →
      ∃ d, (sv.gate.evaluate (some sv.cache) now r.signals (effectivePurposes ids)
          now).decision.result = .ok d ∧
        (d.allowed = true ↔
          sv.gate.Permits (some sv.cache) now r.signals (effectivePurposes ids)) ∧
        Tells sv now r.signals d reply) ∧
    ((∀ t, r.signals.cookie Consent.cookieName = some t →
        (Consent.parse now sv.gate.decoder t).1 = none) →
      (∀ ids, Names r ids →
        (sv.handle now r).2.1 = .ok (refusalReply (effectivePurposes ids) sv.gate.vendorId
          ((sv.gate.listInForce (some sv.cache)).map (·.version)) now)) ∧
      ∀ found, requestedPurposes (.ofString r.query) = .issues found →
        (sv.handle now r).2.1 =
          .ok (unreadableReply ((Query.ofString r.query).values "purposes") found)) := by
  constructor
  · intro ids reply hids hreply hstatus
    obtain ⟨d, hd, hsent⟩ := exists_decision_of_reply (asksFor_of_names h hids) hreply hstatus
    exact ⟨d, hd, (Gate.permits_of_evaluate hd).1, tells_decisionReply hd hsent⟩
  · intro hunparsed
    constructor
    · intro ids hids
      exact outcome_of_unparsed (asksFor_of_names h hids) (effectivePurposes_ne_nil ids) hunparsed
    · intro found hfound
      exact outcome_of_issues h hfound

/-- Consent to basic ads releases the stored id to who asks for no more, but does not store it anew.
Without consent the id stays in. -/
theorem ids_released_for_basic_ads :
    let resolver : Resolver :=
      ⟨"key", "id", Resolver.defaultHeader, Resolver.defaultCookie⟩
    let vendor : Vendor := { id := 45, name := "v", purposes := [2] }
    let gate : Gate := ⟨resolver, some fun _ => .ok (.model ⟨[2], [45]⟩), some 45, true⟩
    let cache := Cache.create ⟨0, some .utc⟩ none Cache.weekly Cache.hourly
      (some { vendors := [(45, vendor)], version := 7 }) none
    let sv : Service := ⟨{ synthetic := ⟨[], []⟩ }, gate, cache⟩
    let r : Request :=
      { path := "/privacy/decision", query := "purposes=2",
        headers := [("Cookie", "euconsent-v2=t; synthetic_id=a")] }
    let r' : Request := { path := "/privacy/decision", headers := [("Cookie", "synthetic_id=a")] }
    (∃ reply, (sv.handle ⟨0, some .utc⟩ r).2.1 = .ok reply ∧
      reply.header? "x-synthetic-trusted-server" = some (.ofString "a") ∧
      reply.header? "set-cookie" = none ∧
      reply.header? "x-consent-advertising" = some (.ofString "true")) ∧
    (sv.handle ⟨0, some .utc⟩ r').2.1 =
      .ok (refusalReply [1] (some 45) (some 7) ⟨0, some .utc⟩) := by
  intro resolver vendor gate cache sv r r'
  have hpermits : gate.Permits (some cache) ⟨0, some .utc⟩ r.signals [2] ∧
      ¬gate.Permits (some cache) ⟨0, some .utc⟩ r.signals [1] := by decide +kernel +revert
  have hpropagated : resolver.propagated r.signals = some ⟨"a", .fromCookie⟩ := by
    decide +kernel +revert
  have hmissing : r'.signals.cookie Consent.cookieName = none := by decide +kernel +revert
  have hparse : Template.parseWith Attribute.names resolver.template =
      .ok [.literal (.scalar 'i'), .literal (.scalar 'd')] := by decide +kernel +revert
  have hvalues : (Query.ofString r.query).values "purposes" = ["2"] := by decide +kernel +revert
  have hids : Names r [2] := by
    rw [Names, hvalues]
    rfl
  have hids' : Names r' [] := rfl
  have hsecret : resolver.secret ≠ [] := nofun
  obtain ⟨fresh, hfresh⟩ : ∃ fresh, gate.generated r.signals = .ok fresh :=
    Gate.exists_generated hsecret (Text.whole_ofChars _) hparse (Text.whole_ofChars _)
      r.whole_signals
  obtain ⟨d, hd⟩ : ∃ d, (gate.evaluate (some cache) ⟨0, some .utc⟩ r.signals [2]
      ⟨0, some .utc⟩).decision.result = .ok d :=
    Gate.exists_result_of_allows (Gate.allows_iff_permits.mpr hpermits.1) hfresh
  have hallowed : d.allowed = true := (Gate.permits_of_evaluate hd).1.mpr hpermits.1
  have hvalue : d.syntheticId = "a" := (Gate.identity_of_propagated hd hallowed hpropagated).1
  have hnarrow : d.syntheticId.Narrow := by
    rw [hvalue]
    exact Text.narrow_iff.mpr rfl
  have hsent : (sv.handle ⟨0, some .utc⟩ r).2.1 =
      .ok (decisionReply sv.settings.publisher.cookieDomain d) := by
    rw [handle_of_decision (asksFor_of_names rfl hids) hd]
    exact send_decisionReply (Text.narrow_iff.mpr rfl) hnarrow (Gate.narrow_of_freshId hd hallowed)
  obtain ⟨hreleased, _⟩ := ids_released_by_consent sv ⟨0, some .utc⟩ r rfl
  obtain ⟨_, hwithout⟩ := ids_released_by_consent sv ⟨0, some .utc⟩ r' rfl
  obtain ⟨d', hd', _, htells⟩ := hreleased [2] _ hids hsent rfl
  obtain rfl : d = d' := Except.ok.inj (hd.symm.trans hd')
  obtain ⟨_, _, _, htrusted⟩ := htells.released hallowed
  have hcookie := htells.unstored fun h => hpermits.2 h.2
  have hadvertising := htells.advertising
  rw [hvalue] at htrusted
  rw [if_pos hpermits.1] at hadvertising
  refine ⟨⟨_, hsent, htrusted, hcookie, hadvertising⟩, (hwithout ?_).1 [] hids'⟩
  intro t ht
  rw [hmissing] at ht
  cases ht

end Service

end ConsentGate
