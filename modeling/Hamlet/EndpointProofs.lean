import Hamlet.GatewayLinkProofs

/-!
# One connection per endpoint

Gateways are told apart by the string a beacon advertises, and dialled at `computeWsUrl` of it.
Strings differ where endpoints do not: a trailing slash, a scheme, an explicit `/ws`.
`endpointsDistinct_iff` gives the exact steps at which a run connects a second time to an endpoint
it already has.
-/

namespace HamletEndpoint

open RustText HamletRegistry HamletCloudGateway HamletGatewayLink

variable {own : Option String} {reg reg' : BeaconRegistry} {conns : List Connection}

/-- No two records are connected to one endpoint, and none to the endpoint of the own
    gateway. -/
def EndpointsDistinct (own : Option String) (reg : BeaconRegistry) : Prop :=
  (∀ id id' r r' u v, id ≠ id' → reg.record? id = some r → reg.record? id' = some r' →
      r.gatewayUrl = some u → r'.gatewayUrl = some v → computeWsUrl u ≠ computeWsUrl v) ∧
    ∀ id r u o, reg.record? id = some r → r.gatewayUrl = some u → own = some o →
      computeWsUrl u ≠ computeWsUrl o

/-- The same, in terms of the URLs the records hold. -/
theorem endpointsDistinct_iff_url :
    EndpointsDistinct own reg ↔
      (∀ id id' u v, id ≠ id' → url? reg id = some u → url? reg id' = some v →
        computeWsUrl u ≠ computeWsUrl v) ∧
      ∀ id u o, url? reg id = some u → own = some o → computeWsUrl u ≠ computeWsUrl o := by
  constructor
  · rintro ⟨hpair, hown⟩
    refine ⟨?_, ?_⟩
    · intro id id' u v hne hu hv
      obtain ⟨r, hr, hru⟩ := field?_eq_some.mp hu
      obtain ⟨r', hr', hrv⟩ := field?_eq_some.mp hv
      exact hpair id id' r r' u v hne hr hr' hru hrv
    · intro id u o hu ho
      obtain ⟨r, hr, hru⟩ := field?_eq_some.mp hu
      exact hown id r u o hr hru ho
  · rintro ⟨hpair, hown⟩
    refine ⟨?_, ?_⟩
    · intro id id' r r' u v hne hr hr' hu hv
      exact hpair id id' u v hne (field?_eq_some.mpr ⟨r, hr, hu⟩) (field?_eq_some.mpr ⟨r', hr', hv⟩)
    · intro id r u o hr hu ho
      exact hown id u o (field?_eq_some.mpr ⟨r, hr, hu⟩) ho

/-- Fewer connections are still at distinct endpoints. -/
theorem EndpointsDistinct.anti (h : EndpointsDistinct own reg)
    (hsub : ∀ id u, url? reg' id = some u → url? reg id = some u) :
    EndpointsDistinct own reg' := by
  obtain ⟨hpair, hown⟩ := endpointsDistinct_iff_url.mp h
  refine endpointsDistinct_iff_url.mpr ⟨?_, ?_⟩
  · intro id id' u v hne hu hv
    exact hpair id id' u v hne (hsub id u hu) (hsub id' v hv)
  · intro id u o hu ho
    exact hown id u o (hsub id u hu) ho

/-- A message gives no second connection to an endpoint: where it stores a dialled URL, the
    endpoint is neither another record's nor that of the own gateway. -/
def DialsNewEndpoint (own : Option String) (reg : BeaconRegistry) (msg : MqttMessage) : Prop :=
  ∀ u id, dials reg msg = some u → recipient reg msg = some id →
    (∀ id' v, id' ≠ id → url? reg id' = some v → computeWsUrl u ≠ computeWsUrl v) ∧
      ∀ o, own = some o → computeWsUrl u ≠ computeWsUrl o

theorem EndpointsDistinct.message {app : App} {msg : MqttMessage} {now : Instant}
    (h : EndpointsDistinct own reg) (hC : DialsNewEndpoint own reg msg) :
    EndpointsDistinct own (onMessage app reg conns msg now).1 := by
  cases hd : dials reg msg with
  | none =>
      have hs := (onMessage_idle app conns now hd).1
      exact h.anti fun id u hu => by rw [hs.url] at hu; exact hu
  | some w =>
      obtain ⟨-, hurl, -⟩ := onMessage_dial app conns now hd
      obtain ⟨hpair, hown⟩ := endpointsDistinct_iff_url.mp h
      refine endpointsDistinct_iff_url.mpr ⟨?_, ?_⟩
      · intro id id' u v hne hu hv
        rw [hurl] at hu hv
        split at hu
        · rename_i hrec
          obtain rfl := Option.some.inj hu
          rw [if_neg (fun h' => hne (Option.some.inj (hrec.symm.trans h')))] at hv
          exact (hC w id hd hrec).1 id' v (Ne.symm hne) hv
        · split at hv
          · rename_i hrec
            obtain rfl := Option.some.inj hv
            exact ((hC w id' hd hrec).1 id u hne hu).symm
          · exact hpair id id' u v hne hu hv
      · intro id u o hu ho
        rw [hurl] at hu
        split at hu
        · rename_i hrec
          obtain rfl := Option.some.inj hu
          exact (hC w id hd hrec).2 o ho
        · exact hown id u o hu ho

theorem not_endpointsDistinct_of_dial {app : App} {msg : MqttMessage} {now : Instant}
    (hC : ¬ DialsNewEndpoint own reg msg) :
    ¬ EndpointsDistinct own (onMessage app reg conns msg now).1 := by
  intro h
  refine hC fun u id hd hrec => ?_
  obtain ⟨-, hurl, -⟩ := onMessage_dial app conns now hd
  obtain ⟨hpair, hown⟩ := endpointsDistinct_iff_url.mp h
  have hid : url? (onMessage app reg conns msg now).1 id = some u := by rw [hurl, if_pos hrec]
  refine ⟨?_, fun o ho => hown id u o hid ho⟩
  intro id' v hne hv
  have hid' : url? (onMessage app reg conns msg now).1 id' = some v := by
    rw [hurl, if_neg (fun h' => hne (Option.some.inj (h'.symm.trans hrec)))]
    exact hv
  exact hpair id id' u v (Ne.symm hne) hid hid'

/-- **No run connects twice to one endpoint, in any of its states, exactly when** every message
    that stores a dialled URL does so for an endpoint that no other record and not the own
    gateway has. The set of known URLs does not see to that: it compares strings. -/
theorem endpointsDistinct_iff (app : App) (es : List Event) (s : LoopState)
    (hrun : loopRun app es = some s) :
    EventRun.Throughout (step app) (.init app) es
        (fun s => EndpointsDistinct app.ownGatewayUrl s.registry) ↔
      EventRun.EachStep (step app) (.init app) es
        (fun s e => ∀ msg now, e = .message msg now →
          DialsNewEndpoint app.ownGatewayUrl s.registry msg) := by
  refine EventRun.throughout_iff_eachStep
    (I := fun _ t => GatewayHolds app.ownGatewayUrl t)
    (J := Holds (fun reg _ => EndpointsDistinct app.ownGatewayUrl reg)
      (fun reg _ _ _ => EndpointsDistinct app.ownGatewayUrl reg))
    hrun ?_ ?_ ?_ ?_ ?_
  · intro p q t _ ht
    exact gatewayHolds_run app p t ht
  · have hnone : ∀ id, (LoopState.init app).registry.record? id = none :=
      fun id => BeaconRegistry.record?_new app.ownGatewayUrl id
    refine ⟨?_, ?_⟩
    · intro id id' r r' u v _ hr
      cases (hnone id).symm.trans hr
    · intro id r u o hr
      cases (hnone id).symm.trans hr
  · rintro p e t u - - hJ hC hstep
    refine hJ.step hstep ?_ ?_ (fun _ _ _ _ h => h) ?_ ?_
      (fun _ => ⟨fun _ _ h => h, fun _ _ _ _ h => h⟩)
    · intro reg conns id r h _
      refine h.anti fun id' v hv => ?_
      rw [url?, field?_removeRecord] at hv
      split at hv
      · cases hv
      · exact hv
    · intro reg conns id r h
      exact h.anti fun id' v hv => by rw [url?, field?_release] at hv; exact hv
    · rintro c now subscribed - h
      have hs := sameLinks_registerChannel t.registry c now subscribed
      exact h.anti fun id v hv => by rw [hs.url] at hv; exact hv
    · rintro msg now rfl h
      exact h.message (hC msg now rfl)
  · rintro p t - hJ
    exact hJ.drop fun _ _ _ h => h
  · rintro p e t u - - hstep hC
    push Not at hC
    obtain ⟨msg, now, rfl, hdial⟩ := hC
    rw [step_message hstep]
    exact not_endpointsDistinct_of_dial hdial

/-- Two beacons advertise one gateway, one of them with a trailing slash. -/
def trailingSlash : List Event :=
  twoBeacons "http://gw" ++ [.message (advert "b2/rec" "http://gw/") 0]

/-- The equivalence at that run. -/
theorem endpointsDistinct_iff_trailingSlash :
    ∃ s, loopRun gatewayApp trailingSlash = some s ∧
      (EventRun.Throughout (step gatewayApp) (.init gatewayApp) trailingSlash
          (fun s => EndpointsDistinct gatewayApp.ownGatewayUrl s.registry) ↔
        EventRun.EachStep (step gatewayApp) (.init gatewayApp) trailingSlash
          (fun s e => ∀ msg now, e = .message msg now →
            DialsNewEndpoint gatewayApp.ownGatewayUrl s.registry msg)) :=
  ⟨_, rfl, endpointsDistinct_iff gatewayApp trailingSlash _ rfl⟩

/-- **Two connections to one endpoint.** -/
theorem trailingSlash_dials_twice :
    ∃ s, loopRun gatewayApp trailingSlash = some s ∧
      ¬ EndpointsDistinct gatewayApp.ownGatewayUrl s.registry := by
  refine ⟨_, rfl, ?_⟩
  rintro ⟨hpair, -⟩
  exact hpair "b1" "b2" _ _ "http://gw" "http://gw/" (by decide) rfl rfl rfl rfl (by decide)

end HamletEndpoint
