import Hamlet.GatewayLinkProofs

/-!
# Which known gateways are live connections

`known_gateways` should list the gateways the node is connected to, so that a gateway whose
connection was torn down can be dialled again. Every run keeps one direction (`GatewayInv`): what
a record holds is known. The other — every known URL is some record's live connection — is lost in
three ways:

* a sweep is DROPPED after it took the record out and before it evicted the URL;
* a message dials a URL and no registered beacon is there to take the sender;
* the beacon that takes it had another connection, whose URL stays known.

`linksLive_iff` says that these are all: the set is right between all iterations of a run if and
only if none of them happens.
-/

namespace HamletLiveLink

open HamletRegistry HamletCloudGateway HamletGatewayLink

variable {own : Option String} {reg reg' : BeaconRegistry} {conns : List Connection}

/-- Every known URL but the own one is the URL of a record that holds the shutdown sender of a
    connection to it. -/
def LinksLive (own : Option String) (reg : BeaconRegistry) (conns : List Connection) : Prop :=
  ∀ u ∈ reg.knownGateways, own ≠ some u →
    ∃ id r tx c, reg.record? id = some r ∧ r.gatewayUrl = some u ∧
      r.gatewayShutdownTx = some tx ∧ conns[tx.connection]? = some c ∧ c.gatewayUrl = u

/-- Every known URL but the own one is some record's. -/
def KnownHeld (own : Option String) (reg : BeaconRegistry) : Prop :=
  ∀ u ∈ reg.knownGateways, own ≠ some u → ∃ id, url? reg id = some u

/-- The same while a record is being deregistered, which may be the one that has it. -/
def KnownHeldBut (own : Option String) (reg : BeaconRegistry) (r : BeaconRecord) : Prop :=
  ∀ u ∈ reg.knownGateways, own ≠ some u → (∃ id, url? reg id = some u) ∨ r.gatewayUrl = some u

/-- With the invariant of every run, a URL that is held is a live connection. -/
theorem linksLive_iff_knownHeld (h : GatewayInv own reg conns) :
    LinksLive own reg conns ↔ KnownHeld own reg := by
  constructor
  · intro hlive u hu hown
    obtain ⟨id, r, -, -, hr, hru, -⟩ := hlive u hu hown
    exact ⟨id, field?_eq_some.mpr ⟨r, hr, hru⟩⟩
  · intro hheld u hu hown
    obtain ⟨id, hid⟩ := hheld u hu hown
    obtain ⟨r, hr, hru⟩ := field?_eq_some.mp hid
    obtain ⟨tx, c, htx, hc, hcu⟩ := h.sender id u hid
    obtain ⟨r', hr', hrtx⟩ := field?_eq_some.mp htx
    obtain rfl : r = r' := Option.some.inj (hr.symm.trans hr')
    exact ⟨id, r, tx, c, hr, hru, hrtx, hc, hcu⟩

theorem KnownHeld.congr (h : KnownHeld own reg) (hs : SameLinks reg reg') :
    KnownHeld own reg' := by
  intro u hu hown
  rw [hs.known] at hu
  obtain ⟨id, hid⟩ := h u hu hown
  exact ⟨id, by rw [hs.url]; exact hid⟩

theorem KnownHeld.take {id : String} {r : BeaconRecord} (h : KnownHeld own reg)
    (hr : reg.record? id = some r) : KnownHeldBut own (reg.removeRecord id) r := by
  intro u hu hown
  obtain ⟨id', hid'⟩ := h u hu hown
  by_cases hid : id' = id
  · right
    rw [hid, url?, field?, hr] at hid'
    exact hid'
  · left
    exact ⟨id', by rw [url?, field?_removeRecord, if_neg hid]; exact hid'⟩

theorem KnownHeldBut.finish {r : BeaconRecord} (h : KnownHeldBut own reg r) :
    KnownHeld own (reg.release r) := by
  intro u hu hown
  obtain ⟨hk, hne⟩ := mem_known_release.mp hu
  rcases h u hk hown with ⟨id, hid⟩ | hr
  · exact ⟨id, by rw [url?, field?_release]; exact hid⟩
  · exact absurd hr hne

/-- The new connection has an owner that had none before. -/
def StoresDial (reg : BeaconRegistry) (msg : MqttMessage) : Prop :=
  ∀ u, dials reg msg = some u → ∃ id, recipient reg msg = some id ∧ url? reg id = none

theorem KnownHeld.message {app : App} {msg : MqttMessage} {now : Instant}
    (h : KnownHeld own reg) (hC : StoresDial reg msg) :
    KnownHeld own (onMessage app reg conns msg now).1 := by
  cases hd : dials reg msg with
  | none => exact h.congr (onMessage_idle app conns now hd).1
  | some u =>
      obtain ⟨hknown, hurl, -⟩ := onMessage_dial app conns now hd
      obtain ⟨id, hid, hfree⟩ := hC u hd
      intro v hv hown
      rw [hknown] at hv
      rcases Finset.mem_insert.mp hv with rfl | hv
      · exact ⟨id, by rw [hurl, if_pos hid]⟩
      · obtain ⟨id', hid'⟩ := h v hv hown
        have hne : recipient reg msg ≠ some id' := by
          intro h'
          rw [Option.some.inj (hid.symm.trans h'), hid'] at hfree
          exact nomatch hfree
        exact ⟨id', by rw [hurl, if_neg hne]; exact hid'⟩

/-- A dial that is not stored, or stored over another connection, leaves a known URL that no
    record has. -/
theorem not_knownHeld_of_dial {app : App} {msg : MqttMessage} {now : Instant}
    (h : GatewayInv own reg conns) (hC : ¬ StoresDial reg msg) :
    ¬ KnownHeld own (onMessage app reg conns msg now).1 := by
  rw [StoresDial] at hC
  push Not at hC
  obtain ⟨u, hd, hbad⟩ := hC
  obtain ⟨hknown, hurl, -⟩ := onMessage_dial app conns now hd
  have hu : u ∉ reg.knownGateways := (dials_eq_some.mp hd).2
  intro hheld
  cases hrec : recipient reg msg with
  | none =>
      -- nobody takes the connection: nobody has the URL
      obtain ⟨id, hid⟩ := hheld u (by rw [hknown]; exact Finset.mem_insert_self ..)
        fun ho => hu (h.own_known u ho)
      rw [hurl, hrec, if_neg (fun h' => nomatch h')] at hid
      exact hu (h.url_known id u hid)
  | some id =>
      -- the URL that is overwritten stays known
      obtain ⟨v, hv⟩ := Option.ne_none_iff_exists'.mp (hbad id hrec)
      have hvk := h.url_known id v hv
      obtain ⟨id', hid'⟩ := hheld v (by rw [hknown]; exact Finset.mem_insert_of_mem hvk)
        (h.url_ne_own id v hv)
      rw [hurl] at hid'
      split at hid'
      · rw [Option.some.inj hid'] at hu
        exact hu hvk
      · rename_i hne
        exact hne (by rw [hrec, h.url_inj id id' v hv hid'])

/-- The condition on a step: a sweep is not dropped while it holds a record with a gateway, and
    a connection made for a message is stored with a registered beacon that has none. -/
def KeepsLinks (s : LoopState) (e : Event) : Prop :=
  (e.dropsSweep = true → ∀ r, s.sweep.pending = some r → r.gatewayUrl = none) ∧
    ∀ msg now, e = .message msg now → StoresDial s.registry msg

/-- A URL left behind by a dropped sweep: known, foreign, and no record's. The two handlers do
    not give it back. -/
theorem not_knownHeld_of_drop {app : App} {s s' : LoopState} {e : Event}
    (h : GatewayHolds own s) (hstep : step app s e = some s') (he : e.dropsSweep = true)
    {r : BeaconRecord} (hr : s.sweep.pending = some r) {u : String}
    (hu : r.gatewayUrl = some u) : ¬ KnownHeld own s'.registry := by
  obtain ⟨-, hq⟩ := h.pending hr
  obtain ⟨hk, hown, hnone⟩ := hq.pending u hu
  intro hheld
  cases e with
  | channel c now subscribed =>
      have hs := sameLinks_registerChannel s.registry c now subscribed
      rw [step_channel hstep] at hheld
      obtain ⟨id, hid⟩ := hheld u (by rw [hs.known]; exact hk) hown
      rw [hs.url] at hid
      exact hnone id hid
  | message msg now =>
      rw [step_message hstep] at hheld
      cases hd : dials s.registry msg with
      | none =>
          have hs := (onMessage_idle app s.connections now hd).1
          obtain ⟨id, hid⟩ := hheld u (by rw [hs.known]; exact hk) hown
          rw [hs.url] at hid
          exact hnone id hid
      | some v =>
          obtain ⟨hknown, hurl, -⟩ := onMessage_dial app s.connections now hd
          obtain ⟨id, hid⟩ := hheld u (by rw [hknown]; exact Finset.mem_insert_of_mem hk) hown
          rw [hurl] at hid
          split at hid
          · rw [← Option.some.inj hid] at hk
            exact (dials_eq_some.mp hd).2 hk
          · exact hnone id hid
  | tick now stale => exact Bool.noConfusion he
  | unsubscribed answer => exact Bool.noConfusion he
  | topicsLocked => exact Bool.noConfusion he

/-- An event that is not part of the sweep ends the iteration. -/
theorem betweenIterations_of_drops {app : App} {s s' : LoopState} {e : Event}
    (hstep : step app s e = some s') (he : e.dropsSweep = true) : s'.BetweenIterations := by
  cases e with
  | channel c now subscribed => rw [step_channel hstep]; rfl
  | message msg now => rw [step_message hstep]; rfl
  | tick now stale => exact Bool.noConfusion he
  | unsubscribed answer => exact Bool.noConfusion he
  | topicsLocked => exact Bool.noConfusion he

/-- **Every known gateway is a live connection, between all iterations of a run, exactly when**
    no sweep is dropped while it holds a record with a gateway and every connection made is
    stored with a registered beacon that has none. -/
theorem linksLive_iff (app : App) (es : List Event) (s : LoopState)
    (hrun : loopRun app es = some s) :
    EventRun.Throughout (step app) (.init app) es
        (fun s => s.BetweenIterations →
          LinksLive app.ownGatewayUrl s.registry s.connections) ↔
      EventRun.EachStep (step app) (.init app) es KeepsLinks := by
  refine EventRun.throughout_iff_eachStep
    (I := fun _ t => GatewayHolds app.ownGatewayUrl t)
    (J := Holds (fun reg _ => KnownHeld app.ownGatewayUrl reg)
      (fun reg _ _ r => KnownHeldBut app.ownGatewayUrl reg r))
    hrun ?_ ?_ ?_ ?_ ?_
  · intro p q t _ ht
    exact gatewayHolds_run app p t ht
  · intro u hu hown
    cases ho : app.ownGatewayUrl with
    | none =>
        rw [show (LoopState.init app).registry = .new app.ownGatewayUrl from rfl, ho] at hu
        exact nomatch hu
    | some o =>
        rw [show (LoopState.init app).registry = .new app.ownGatewayUrl from rfl, ho] at hu
        rw [ho, Finset.mem_singleton.mp hu] at hown
        exact absurd rfl hown
  · rintro p e t u - - hJ ⟨hdrop, hmsg⟩ hstep
    refine hJ.step hstep (fun _ _ _ _ h hr => h.take hr) (fun _ _ _ _ h => h.finish) ?_ ?_ ?_
      (fun _ => ⟨fun _ _ h => h, fun _ _ _ _ h => h⟩)
    · -- dropped while holding a record without a gateway: nothing is left behind
      intro he id r hr hq v hv hown
      rcases hq v hv hown with hid | hru
      · exact hid
      · rw [hdrop he r hr] at hru
        exact nomatch hru
    · rintro c now subscribed - h
      exact h.congr (sameLinks_registerChannel t.registry c now subscribed)
    · rintro msg now rfl h
      exact h.message (hmsg msg now rfl)
  · rintro p ⟨reg, fut, conns⟩ hinv hJ hbetween
    obtain rfl : fut = .waitingTick := hbetween
    exact (linksLive_iff_knownHeld hinv).mpr hJ
  · intro p e t u hinv hinv' hstep hC hlive
    rw [KeepsLinks, not_and_or] at hC
    have hbad : e.dropsSweep = true ∧ ¬ KnownHeld app.ownGatewayUrl u.registry := by
      rcases hC with hdrop | hmsg
      · push Not at hdrop
        obtain ⟨he, r, hr, hru⟩ := hdrop
        obtain ⟨v, hv⟩ := Option.ne_none_iff_exists'.mp hru
        exact ⟨he, not_knownHeld_of_drop hinv hstep he hr hv⟩
      · push Not at hmsg
        obtain ⟨msg, now, rfl, hdial⟩ := hmsg
        rw [step_message hstep]
        exact ⟨rfl, not_knownHeld_of_dial hinv.inv hdial⟩
    exact hbad.2 ((linksLive_iff_knownHeld hinv'.inv).mp
      (hlive (betweenIterations_of_drops hstep hbad.1)))

/-- The equivalence at a run in which a beacon advertises a foreign gateway. -/
theorem linksLive_iff_twoBeacons :
    ∃ s, loopRun gatewayApp (twoBeacons "http://gw") = some s ∧
      (EventRun.Throughout (step gatewayApp) (.init gatewayApp) (twoBeacons "http://gw")
          (fun s => s.BetweenIterations →
            LinksLive gatewayApp.ownGatewayUrl s.registry s.connections) ↔
        EventRun.EachStep (step gatewayApp) (.init gatewayApp) (twoBeacons "http://gw")
          KeepsLinks) :=
  ⟨_, rfl, linksLive_iff gatewayApp (twoBeacons "http://gw") _ rfl⟩

/-- A gateway advertised on a topic that names no registered beacon. -/
def unownedDial : List Event := [.message (advert "registration" "http://gw") 0]

/-- **A connection nobody owns.** The sender of the new connection is dropped at once, and its
    URL stays known for good. -/
theorem unownedDial_blocks_gateway :
    ∃ s, loopRun gatewayApp unownedDial = some s ∧ s.BetweenIterations ∧
      ¬ LinksLive gatewayApp.ownGatewayUrl s.registry s.connections := by
  refine ⟨_, rfl, by decide, ?_⟩
  intro hlive
  obtain ⟨id, r, -, -, hr, -⟩ := hlive "http://gw" (by decide) (by decide)
  exact nomatch hr.symm.trans (BeaconRegistry.record?_new (some "http://own") id)

end HamletLiveLink
