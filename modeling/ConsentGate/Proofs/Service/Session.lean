import ConsentGate.Proofs.Gate.Coherence
import ConsentGate.Proofs.Gate.Noninterference
import ConsentGate.Proofs.Service.Reply

namespace ConsentGate

/-- A request of a client, with the service as it is by then. -/
structure Visit where
  service : Service
  now : Moment
  request : Http.Request

namespace Visit

open Resolver (defaultHeader defaultCookie nonEmpty)

variable {v w : Visit} {vs before after : List Visit} {stored : Option Text} {id : Text}
  {d : Decision} {reply : Http.Reply}

def outcome (v : Visit) : Service.Outcome := (v.service.handle v.now v.request).2.1

def Decides (v : Visit) (d : Decision) : Prop :=
  ∃ ps, Service.AsksFor v.request ps ∧
    (v.service.gate.evaluate (some v.service.cache) v.now v.request.signals ps
      v.now).decision.result = .ok d

def domain (v : Visit) : Text := v.service.settings.publisher.cookieDomain

def keep (stored : Option Text) (v : Visit) : Option Text :=
  match v.outcome with
  | .ok reply => reply.storedId?.or stored
  | .error _ => stored

def keepAll (stored : Option Text) (vs : List Visit) : Option Text := vs.foldl keep stored

/-- The client brings what it has stored, and no id in the header. -/
structure Brings (v : Visit) (stored : Option Text) : Prop where
  headerName : v.service.gate.resolver.headerName = defaultHeader
  cookieName : v.service.gate.resolver.cookieName = defaultCookie
  header : nonEmpty (v.request.signals.header defaultHeader) = none
  cookie : v.request.signals.cookie defaultCookie = stored

def Browses : Option Text → List Visit → Prop
  | _, [] => True
  | stored, v :: vs => v.Brings stored ∧ Browses (keep stored v) vs

/-- The id in the header of one reply is in the header of the next request. -/
structure Forwards (v w : Visit) : Prop where
  headerName : w.service.gate.resolver.headerName = defaultHeader
  header : ∃ reply value, v.outcome = .ok reply ∧
    reply.header? defaultHeader = some value ∧
    w.request.signals.header defaultHeader = some value

theorem outcome_of_decides (h : v.Decides d) :
    v.outcome = Service.send (Service.decisionReply v.domain d) := by
  obtain ⟨ps, hasks, hd⟩ := h
  rw [outcome, Service.handle_of_decision hasks hd]
  rfl

theorem no_id_of_send {r : Http.Reply} (h : Service.send r = .ok reply)
    (hcookie : r.header? "set-cookie" = none) (hheader : r.header? defaultHeader = none) :
    reply.storedId? = none ∧ reply.header? defaultHeader = none := by
  rw [Service.eq_of_send h, Http.Reply.storedId?, hcookie]
  exact ⟨rfl, hheader⟩

theorem exists_decides_of_allows {ps : List Int} (hasks : Service.AsksFor v.request ps)
    (h : v.service.gate.allows (some v.service.cache) v.now v.request.signals ps = true)
    (hid : v.service.gate.generated v.request.signals = .ok id) :
    ∃ d, v.Decides d ∧ d.allowed = true := by
  obtain ⟨d, hd⟩ := Gate.exists_result_of_allows h hid
  exact ⟨d, ⟨ps, hasks, hd⟩, (Gate.allowed_eq_allows hd).trans h⟩

theorem decides_or_no_id (h : v.outcome = .ok reply) :
    (∃ d, v.Decides d ∧ reply = Service.decisionReply v.domain d) ∨
      reply.storedId? = none ∧ reply.header? defaultHeader = none := by
  unfold outcome Service.handle at h
  cases hdestination : v.request.destination with
  | route route =>
    cases route with
    | decision =>
      simp only [hdestination, Service.decide] at h
      cases hpurposes : Service.requestedPurposes (.ofString v.request.query) with
      | issues found =>
        simp only [hpurposes] at h
        exact .inr (no_id_of_send h rfl rfl)
      | value ps =>
        simp only [hpurposes] at h
        cases hd : (v.service.gate.evaluate (some v.service.cache) v.now v.request.signals ps
            v.now).decision.result with
        | ok d =>
          simp only [hd] at h
          exact .inl ⟨d, ⟨ps, ⟨hdestination, hpurposes⟩, hd⟩, Service.eq_of_send h⟩
        | error e =>
          simp only [hd] at h
          exact .inr (no_id_of_send h rfl rfl)
    | vendorList =>
      simp only [hdestination] at h
      exact .inr (no_id_of_send h rfl rfl)
  | wrongMethod | elsewhere path | nowhere =>
    simp only [hdestination] at h
    exact .inr (no_id_of_send h rfl rfl)

theorem keep_of_reply (hr : v.outcome = .ok reply) (stored : Option Text) :
    keep stored v = reply.storedId?.or stored := by
  unfold keep
  rw [hr]

theorem keep_of_error {run : WideRun} (hr : v.outcome = .error run) (stored : Option Text) :
    keep stored v = stored := by
  unfold keep
  rw [hr]

theorem keep_of_withheld (hd : v.Decides d) (h : d.allowed = false ∨ d.deviceAccess = false)
    (stored : Option Text) : keep stored v = stored := by
  have hnot : ¬(d.allowed = true ∧ d.deviceAccess = true) := by
    rw [not_and_or, Bool.not_eq_true, Bool.not_eq_true]
    exact h
  cases hr : v.outcome with
  | error run => exact keep_of_error hr stored
  | ok reply =>
    have hreply := Service.eq_of_send ((outcome_of_decides hd).symm.trans hr)
    rw [keep_of_reply hr, hreply, Service.storedId?_of_withheld _ hnot, Option.none_or]

theorem keep_of_granted (hd : v.Decides d) (hallowed : d.allowed = true)
    (haccess : d.deviceAccess = true) (hr : v.outcome = .ok reply) (stored : Option Text) :
    keep stored v = some d.syntheticId := by
  have hsent := (outcome_of_decides hd).symm.trans hr
  have hid : d.syntheticId.Whole := (Service.narrow_of_send hsent hallowed).whole
  rw [keep_of_reply hr, Service.eq_of_send hsent,
    Service.storedId?_of_granted _ hallowed haccess hid, Option.some_or]

theorem exists_decides_of_keep_ne (h : keep stored v ≠ stored) :
    ∃ d, v.Decides d ∧ d.allowed = true ∧ keep stored v = some d.syntheticId := by
  cases hr : v.outcome with
  | error run => exact absurd (keep_of_error hr stored) h
  | ok reply =>
    rcases decides_or_no_id hr with ⟨d, hd, _⟩ | ⟨hstored, _⟩
    · by_cases hgranted : d.allowed = true ∧ d.deviceAccess = true
      · exact ⟨d, hd, hgranted.1, keep_of_granted hd hgranted.1 hgranted.2 hr stored⟩
      · rw [not_and_or, Bool.not_eq_true, Bool.not_eq_true] at hgranted
        exact absurd (keep_of_withheld hd hgranted stored) h
    · rw [keep_of_reply hr, hstored] at h
      exact absurd rfl h

theorem identity_of_brings (hv : v.Brings (some id)) (hne : id ≠ []) (hd : v.Decides d)
    (h : d.allowed = true) : d.syntheticId = id ∧ d.provenance = some .fromCookie := by
  obtain ⟨ps, _, hd⟩ := hd
  have hheader : nonEmpty (v.request.signals.header v.service.gate.resolver.headerName) = none := by
    rw [hv.headerName, hv.header]
  have hcookie : v.request.signals.cookie v.service.gate.resolver.cookieName = some id := by
    rw [hv.cookieName, hv.cookie]
  exact Gate.identity_of_propagated hd h (Resolver.propagated_of_cookie hheader hcookie hne)

theorem keep_of_brings (hv : v.Brings (some id)) (hne : id ≠ []) : keep (some id) v = some id := by
  by_contra h
  obtain ⟨d, hd, hallowed, hkeep⟩ := exists_decides_of_keep_ne h
  rw [(identity_of_brings hv hne hd hallowed).1] at hkeep
  exact h hkeep

theorem keepAll_append :
    keepAll stored (before ++ after) = keepAll (keepAll stored before) after := List.foldl_append

theorem browses_append :
    Browses stored (before ++ after) ↔
      Browses stored before ∧ Browses (keepAll stored before) after := by
  induction before generalizing stored with
  | nil => simp [Browses, keepAll]
  | cons v before ih =>
    rw [List.cons_append, Browses, Browses, ih, and_assoc]
    rfl

theorem brings_of_browses (h : Browses (some id) vs) (hne : id ≠ []) :
    keepAll (some id) vs = some id ∧ ∀ v ∈ vs, v.Brings (some id) := by
  -- Each visit leaves the id in store, which is what the next one has to bring.
  induction vs with
  | nil => exact ⟨rfl, fun _ h => nomatch h⟩
  | cons v vs ih =>
    rw [Browses] at h
    obtain ⟨hv, hvs⟩ := h
    have hkeep : keep (some id) v = some id := keep_of_brings hv hne
    rw [hkeep] at hvs
    obtain ⟨hkept, hbrings⟩ := ih hvs
    refine ⟨?_, List.forall_mem_cons.mpr ⟨hv, hbrings⟩⟩
    rw [keepAll, List.foldl_cons, hkeep]
    exact hkept

theorem header_of_forwards (hw : v.Forwards w) :
    ∃ d, v.Decides d ∧ d.allowed = true ∧
      w.request.signals.header w.service.gate.resolver.headerName = some d.syntheticId := by
  obtain ⟨reply, value, hr, htold, hforwarded⟩ := hw.header
  rcases decides_or_no_id hr with ⟨d, hd, rfl⟩ | ⟨_, hnone⟩
  · rw [(Service.header_decisionReply v.domain d).1] at htold
    split at htold
    · next hallowed =>
      have hvalue : d.syntheticId = value := Option.some.inj htold
      refine ⟨d, hd, hallowed, ?_⟩
      rw [hw.headerName, hforwarded, hvalue]
    · cases htold
  · rw [hnone] at htold
    cases htold

theorem forwards_of_decides (hd : v.Decides d) (hallowed : d.allowed = true)
    (hdomain : v.domain.Narrow) (hid : d.syntheticId.Narrow)
    (hname : w.service.gate.resolver.headerName = defaultHeader)
    (hw : w.request.signals.header defaultHeader = some d.syntheticId) : v.Forwards w := by
  have hfresh : ∀ fresh ∈ d.freshId, fresh.Narrow := by
    obtain ⟨ps, _, hd⟩ := hd
    exact Gate.narrow_of_freshId hd hallowed
  have hsent : v.outcome = .ok (Service.decisionReply v.domain d) :=
    (outcome_of_decides hd).trans (Service.send_decisionReply hdomain hid hfresh)
  refine ⟨hname, Service.decisionReply v.domain d, d.syntheticId, hsent, ?_, hw⟩
  rw [(Service.header_decisionReply v.domain d).1, if_pos hallowed]

theorem decides_unique {d' : Decision} (hd : v.Decides d) (hd' : v.Decides d') : d = d' := by
  obtain ⟨ps, ⟨_, hps⟩, hd⟩ := hd
  obtain ⟨ps', ⟨_, hps'⟩, hd'⟩ := hd'
  obtain rfl : ps = ps' := by
    rw [hps] at hps'
    injection hps'
  rw [hd] at hd'
  exact Except.ok.inj hd'

theorem identity_of_header
    (h : v.request.signals.header v.service.gate.resolver.headerName = some id) (hne : id ≠ [])
    (hd : v.Decides d) (hallowed : d.allowed = true) :
    d.syntheticId = id ∧ d.provenance = some .fromHeader := by
  obtain ⟨ps, _, hd⟩ := hd
  exact Gate.identity_of_propagated hd hallowed (Resolver.propagated_of_header h hne)

theorem header_of_isChain (h : (v :: vs).IsChain Forwards) (hne : id ≠ [])
    (hid : ∀ d, v.Decides d → d.allowed = true → d.syntheticId = id) :
    ∀ w ∈ vs, w.request.signals.header w.service.gate.resolver.headerName = some id := by
  -- That a visit forwards an id says that it was decided, so the next one is known to give the same.
  induction vs generalizing v with
  | nil => exact fun _ h => nomatch h
  | cons w vs ih =>
    obtain ⟨hvw, hvs⟩ := List.isChain_cons_cons.mp h
    obtain ⟨d, hd, hallowed, hw⟩ := header_of_forwards hvw
    rw [hid d hd hallowed] at hw
    refine List.forall_mem_cons.mpr ⟨hw, ih hvs ?_⟩
    intro d' hd' hallowed'
    exact (identity_of_header hw hne hd' hallowed').1

theorem ne_nil_of_decides (hd : v.Decides d) (h : d.allowed = true) : d.syntheticId ≠ [] := by
  obtain ⟨ps, _, hd⟩ := hd
  exact Gate.ne_nil_of_allowed hd h

/-- A client keeps the first id that it stores, and gets it back with each allowed decision. Where
one request hands the id to the next in the header, the cookies do not count. -/
theorem identity_sticks :
    (∀ (stored : Option Text) (before after : List Visit) (id : Text),
      Browses stored (before ++ after) → keepAll stored before = some id → id ≠ [] →
        (∀ more, more <+: after → keepAll stored (before ++ more) = some id) ∧
        ∀ v ∈ after, ∀ d, v.Decides d → d.allowed = true →
          d.syntheticId = id ∧ d.provenance = some .fromCookie) ∧
    (∀ (v : Visit) (d : Decision), v.Decides d →
      (d.allowed = false ∨ d.deviceAccess = false → ∀ stored, keep stored v = stored) ∧
      (d.allowed = true → d.deviceAccess = true → ∀ reply, v.outcome = .ok reply →
        d.syntheticId ≠ [] ∧ ∀ stored, keep stored v = some d.syntheticId)) ∧
    ∀ (v : Visit) (vs : List Visit) (d : Decision),
      (v :: vs).IsChain Forwards → v.Decides d → d.allowed = true →
        ∀ w ∈ vs, ∀ d', w.Decides d' → d'.allowed = true →
          d'.syntheticId = d.syntheticId ∧ d'.provenance = some .fromHeader := by
  refine ⟨?_, ?_, ?_⟩
  · intro stored before after id hbrowses hid hne
    obtain ⟨_, hafter⟩ := browses_append.mp hbrowses
    rw [hid] at hafter
    constructor
    · rintro more ⟨rest, rfl⟩
      have hmore : Browses (some id) more := (browses_append.mp hafter).1
      rw [keepAll_append, hid]
      exact (brings_of_browses hmore hne).1
    · intro v hv d hd hallowed
      exact identity_of_brings ((brings_of_browses hafter hne).2 v hv) hne hd hallowed
  · intro v d hd
    constructor
    · intro h stored
      exact keep_of_withheld hd h stored
    · intro hallowed haccess reply hr
      exact ⟨ne_nil_of_decides hd hallowed, keep_of_granted hd hallowed haccess hr⟩
  · intro v vs d hchain hd hallowed w hw d' hd' hallowed'
    have hne : d.syntheticId ≠ [] := ne_nil_of_decides hd hallowed
    have hid : ∀ e, v.Decides e → e.allowed = true → e.syntheticId = d.syntheticId := by
      intro e he _
      rw [decides_unique he hd]
    exact identity_of_header (header_of_isChain hchain hne hid w hw) hne hd' hallowed'

/-- A stored id outlives a visit without consent. One that comes in a header is handed on beside it,
whatever cookies there are. -/
theorem identity_sticks_through_denial :
    let resolver : Resolver := ⟨"key", "id", defaultHeader, defaultCookie⟩
    let gate : Gate := ⟨resolver, some fun _ => .ok (.model ⟨[1], []⟩), none, false⟩
    let cache := Cache.create ⟨0, some .utc⟩ none Cache.weekly Cache.hourly none none
    let sv : Service := ⟨{ synthetic := ⟨[], []⟩ }, gate, cache⟩
    let visit (headers : List (String × String)) : Visit :=
      ⟨sv, ⟨0, some .utc⟩, { path := "/privacy/decision", headers := headers }⟩
    let v := visit [("Cookie", "euconsent-v2=t; synthetic_id=a")]
    let denied := visit [("Cookie", "synthetic_id=a")]
    let w := visit [("Cookie", "euconsent-v2=t; synthetic_id=a"), (defaultHeader, "b")]
    let w' := visit [("Cookie", "euconsent-v2=t; synthetic_id=c"), (defaultHeader, "b")]
    let id : Text := "a"
    Browses (some id) [v, denied, v] ∧ keepAll (some id) [v, denied, v] = some id ∧
      (∃ d, v.Decides d ∧ d.allowed = true ∧ d.syntheticId = id ∧
        d.provenance = some .fromCookie) ∧
      (∃ d, denied.Decides d ∧ d.allowed = false) ∧
      [w, w'].IsChain Forwards ∧ (∃ d, w.Decides d ∧ d.allowed = true) ∧
      ∃ d, w'.Decides d ∧ d.allowed = true ∧ d.syntheticId = "b" ∧
        d.provenance = some .fromHeader := by
  intro resolver gate cache sv visit v denied w w' id
  have hallows : gate.allows (some cache) v.now v.request.signals [1] = true ∧
      gate.allows (some cache) w.now w.request.signals [1] = true ∧
      gate.allows (some cache) w'.now w'.request.signals [1] = true := by decide +kernel +revert
  have hdenies : gate.allows (some cache) denied.now denied.request.signals [1] = false := by
    decide +kernel +revert
  have hcookie : v.request.signals.cookie defaultCookie = some id ∧
      denied.request.signals.cookie defaultCookie = some id := by decide +kernel +revert
  have hheader : nonEmpty (v.request.signals.header defaultHeader) = none ∧
      nonEmpty (denied.request.signals.header defaultHeader) = none := by decide +kernel +revert
  have hforwarded : w.request.signals.header defaultHeader = some (.ofString "b") ∧
      w'.request.signals.header defaultHeader = some (.ofString "b") := by decide +kernel +revert
  have hparse : Template.parseWith Attribute.names resolver.template =
      .ok [.literal (.scalar 'i'), .literal (.scalar 'd')] := by decide +kernel +revert
  have hsecret : resolver.secret ≠ [] := nofun
  have hdecides : ∀ headers,
      gate.allows (some cache) ⟨0, some .utc⟩ (visit headers).request.signals [1] = true →
        ∃ d, (visit headers).Decides d ∧ d.allowed = true := by
    intro headers h
    obtain ⟨fresh, hfresh⟩ : ∃ fresh, gate.generated (visit headers).request.signals = .ok fresh :=
      Gate.exists_generated hsecret (Text.whole_ofChars _) hparse (Text.whole_ofChars _)
        (visit headers).request.whole_signals
    exact exists_decides_of_allows ⟨rfl, rfl⟩ h hfresh
  obtain ⟨hstays, _, hchain⟩ := identity_sticks
  have hv : v.Brings (some id) := ⟨rfl, rfl, hheader.1, hcookie.1⟩
  have hdenied : denied.Brings (some id) := ⟨rfl, rfl, hheader.2, hcookie.2⟩
  have hne : id ≠ [] := nofun
  have hbrowses : Browses (some id) [v, denied, v] := by
    refine ⟨hv, ?_⟩
    rw [keep_of_brings hv hne]
    refine ⟨hdenied, ?_⟩
    rw [keep_of_brings hdenied hne]
    exact ⟨hv, trivial⟩
  obtain ⟨hkept, hsame⟩ := hstays (some id) [] [v, denied, v] id hbrowses rfl hne
  obtain ⟨d, hd, hallowed⟩ := hdecides _ hallows.1
  obtain ⟨dw, hdw, hallowedw⟩ := hdecides _ hallows.2.1
  obtain ⟨dw', hdw', hallowedw'⟩ := hdecides _ hallows.2.2
  have hid : dw.syntheticId = "b" :=
    (identity_of_header hforwarded.1 (by decide) hdw hallowedw).1
  have hforwards : w.Forwards w' := by
    refine forwards_of_decides hdw hallowedw (Text.narrow_iff.mpr rfl) ?_ rfl ?_
    · rw [hid]
      exact Text.narrow_iff.mpr rfl
    · rw [hid]
      exact hforwarded.2
  have hpair : [w, w'].IsChain Forwards := .cons_cons hforwards (.singleton w')
  obtain ⟨hid', hprovenance'⟩ :=
    hchain w [w'] dw hpair hdw hallowedw w' List.mem_cons_self dw' hdw' hallowedw'
  refine ⟨hbrowses, hkept _ List.prefix_rfl,
    ⟨d, hd, hallowed, hsame v List.mem_cons_self d hd hallowed⟩,
    ⟨_, ⟨[1], ⟨rfl, rfl⟩, Gate.result_of_not_allows hdenies⟩, hdenies⟩, hpair, ⟨dw, hdw, hallowedw⟩,
    dw', hdw', hallowedw', hid'.trans hid, hprovenance'⟩

end Visit

end ConsentGate
