import Hamlet.RegistryProofs

/-!
# Known gateways, records, and live connections

`known_gateways` is the set the message loop consults before it dials a gateway that a beacon
advertises. Three things have to stay in step with it: the URL a record holds, the shutdown
sender beside it (the connection lives as long as the sender does), and the calls of
`connect_to_gateway`.

* `GatewayInv` is what EVERY run keeps, sweeps dropped at any await included: the own URL is
  known, the URLs of records are known, pairwise different, never the own one, and each sits
  next to the sender of a connection that was dialled for it. `own_gateway_never_dialled` reads
  off what that means for the calls.
-/

namespace HamletGatewayLink

open RustText HamletRegistry HamletCloudGateway

-- ── Gateway URL and sender of a record ───────────────────────────────────────

/-- The gateway URL a registered beacon holds. -/
abbrev url? : BeaconRegistry → String → Option String := field? BeaconRecord.gatewayUrl

/-- The shutdown sender a registered beacon holds. -/
abbrev tx? : BeaconRegistry → String → Option ShutdownTx := field? BeaconRecord.gatewayShutdownTx

/-- Two registries with the same gateways: known set, URLs and senders. -/
structure SameLinks (reg reg' : BeaconRegistry) : Prop where
  known : reg'.knownGateways = reg.knownGateways
  url   : ∀ id, url? reg' id = url? reg id
  tx    : ∀ id, tx? reg' id = tx? reg id

theorem SameLinks.trans {a b c : BeaconRegistry} (h : SameLinks a b) (h' : SameLinks b c) :
    SameLinks a c :=
  ⟨h'.known.trans h.known, fun id => (h'.url id).trans (h.url id),
    fun id => (h'.tx id).trans (h.tx id)⟩

/-- Changing a record outside its gateway fields. -/
theorem sameLinks_modifyRecord {reg : BeaconRegistry} {id : String}
    {f : BeaconRecord → BeaconRecord} (hurl : ∀ r, (f r).gatewayUrl = r.gatewayUrl)
    (htx : ∀ r, (f r).gatewayShutdownTx = r.gatewayShutdownTx) :
    SameLinks reg (reg.modifyRecord id f) :=
  ⟨BeaconRegistry.knownGateways_modifyRecord .., field?_modifyRecord _ hurl,
    field?_modifyRecord _ htx⟩

/-- Registering a channel, of any type and with any answer, touches no gateway. -/
theorem sameLinks_registerChannel (reg : BeaconRegistry) (c : TopicChannel) (now : Instant)
    (subscribed : Except String Unit) : SameLinks reg (reg.registerChannel c now subscribed) := by
  have hensure : SameLinks reg (reg.ensureRecord c.beaconId now) :=
    ⟨BeaconRegistry.knownGateways_ensureRecord .., field?_ensureRecord reg c.beaconId _ rfl,
      field?_ensureRecord reg c.beaconId _ rfl⟩
  have hpush : ∀ t, SameLinks reg ((reg.ensureRecord c.beaconId now).pushTopic t) :=
    fun t => hensure.trans ⟨rfl, fun _ => rfl, fun _ => rfl⟩
  obtain ⟨id, topic, type⟩ := c
  cases type with
  | listen =>
      cases subscribed with
      | error e => exact hensure
      | ok u => exact hensure.trans (sameLinks_modifyRecord (fun _ => rfl) fun _ => rfl)
  | broadcast => exact (hpush _).trans (sameLinks_modifyRecord (fun _ => rfl) fun _ => rfl)
  | hybrid =>
      cases subscribed with
      | error e => exact hensure
      | ok u => exact (hpush _).trans (sameLinks_modifyRecord (fun _ => rfl) fun _ => rfl)

/-- Being done with a removed record evicts exactly its URL. -/
theorem mem_known_release {reg : BeaconRegistry} {r : BeaconRecord} {u : String} :
    u ∈ (reg.release r).knownGateways ↔ u ∈ reg.knownGateways ∧ r.gatewayUrl ≠ some u := by
  have hevict : ∀ reg' : BeaconRegistry, u ∈ (reg'.evictGateway r).knownGateways ↔
      u ∈ reg'.knownGateways ∧ r.gatewayUrl ≠ some u := by
    intro reg'
    rw [BeaconRegistry.evictGateway]
    cases hr : r.gatewayUrl with
    | none => simp
    | some v => simp [and_comm, eq_comm]
  rw [BeaconRegistry.release]
  split
  · exact hevict (reg.retainTopics r.broadcastTopic)
  · exact hevict reg

-- ── What a message does ──────────────────────────────────────────────────────

/-- The URL a message makes the loop dial: advertised and not known yet. -/
def dials (reg : BeaconRegistry) (msg : MqttMessage) : Option String :=
  (advertisedGateway msg.payload.value).filter fun u => !reg.isGatewayKnown u

theorem dials_eq_some {reg : BeaconRegistry} {msg : MqttMessage} {u : String} :
    dials reg msg = some u ↔
      advertisedGateway msg.payload.value = some u ∧ u ∉ reg.knownGateways := by
  rw [dials, Option.filter_eq_some_iff, BeaconRegistry.isGatewayKnown]
  simp

/-- The beacon a new connection is stored with: the topic names it and it is registered. -/
def recipient (reg : BeaconRegistry) (msg : MqttMessage) : Option String :=
  (senderOf msg.topic).filter fun id => (reg.record? id).isSome

theorem recipient_eq_some {reg : BeaconRegistry} {msg : MqttMessage} {id : String} :
    recipient reg msg = some id ↔
      senderOf msg.topic = some id ∧ ∃ r, reg.record? id = some r := by
  rw [recipient, Option.filter_eq_some_iff, Option.isSome_iff_exists]

theorem record?_refreshSender (reg : BeaconRegistry) (topic : String) (now : Instant)
    (id : String) :
    (refreshSender reg topic now).record? id =
      if senderOf topic = some id then (reg.record? id).map fun r => { r with lastSeen := now }
      else reg.record? id := by
  rw [refreshSender]
  cases hs : senderOf topic with
  | none => rfl
  | some id₀ =>
      simp only [BeaconRegistry.updateLastSeen, BeaconRegistry.record?_modifyRecord,
        Option.some.injEq]
      by_cases h : id = id₀
      · rw [if_pos h, if_pos h.symm, h]
      · rw [if_neg h, if_neg (Ne.symm h)]

theorem record?_associateSender (reg : BeaconRegistry) (topic u : String) (tx : ShutdownTx)
    (id : String) :
    (associateSender reg topic u tx).record? id =
      if senderOf topic = some id then
        (reg.record? id).map fun r => { r with gatewayUrl := some u, gatewayShutdownTx := some tx }
      else reg.record? id := by
  rw [associateSender]
  cases hs : senderOf topic with
  | none => rfl
  | some id₀ =>
      simp only [BeaconRegistry.associateGateway, BeaconRegistry.record?_modifyRecord,
        Option.some.injEq]
      by_cases h : id = id₀
      · rw [if_pos h, if_pos h.symm, h]
      · rw [if_neg h, if_neg (Ne.symm h)]

theorem sameLinks_refreshSender (reg : BeaconRegistry) (topic : String) (now : Instant) :
    SameLinks reg (refreshSender reg topic now) := by
  rw [refreshSender]
  cases senderOf topic with
  | none => exact ⟨rfl, fun _ => rfl, fun _ => rfl⟩
  | some id => exact sameLinks_modifyRecord (fun _ => rfl) fun _ => rfl

/-- A message that dials nothing touches no gateway. -/
theorem onMessage_idle (app : App) {reg : BeaconRegistry} (conns : List Connection)
    {msg : MqttMessage} (now : Instant) (h : dials reg msg = none) :
    SameLinks reg (onMessage app reg conns msg now).1 ∧
      (onMessage app reg conns msg now).2 = conns := by
  have hrefresh := sameLinks_refreshSender reg msg.topic now
  rw [onMessage]
  cases ha : advertisedGateway msg.payload.value with
  | none => exact ⟨hrefresh, rfl⟩
  | some u =>
      have hk : (refreshSender reg msg.topic now).isGatewayKnown u = true := by
        rw [dials, ha, Option.filter_eq_none_iff] at h
        have hu := h u rfl
        rw [BeaconRegistry.isGatewayKnown] at hu
        rw [BeaconRegistry.isGatewayKnown, hrefresh.known]
        simpa using hu
      simp only []
      rw [if_pos hk]
      exact ⟨hrefresh, rfl⟩

/-- What the loop does with a URL it does not know. -/
theorem onMessage_dial_eq (app : App) {reg : BeaconRegistry} (conns : List Connection)
    {msg : MqttMessage} (now : Instant) {u : String} (h : dials reg msg = some u) :
    (onMessage app reg conns msg now).1 =
        associateSender ((refreshSender reg msg.topic now).insertGateway u) msg.topic u
          ⟨conns.length⟩ ∧
      ∃ c, c.gatewayUrl = u ∧ (onMessage app reg conns msg now).2 = conns ++ [c] := by
  obtain ⟨ha, hu⟩ := dials_eq_some.mp h
  have hk : ¬ (refreshSender reg msg.topic now).isGatewayKnown u = true := by
    rw [BeaconRegistry.isGatewayKnown, (sameLinks_refreshSender reg msg.topic now).known]
    simpa using hu
  rw [onMessage]
  simp only [ha]
  rw [if_neg hk]
  exact ⟨rfl, _, rfl, rfl⟩

/-- The fields of the recipient after a dial; everybody else keeps theirs. -/
theorem field?_onMessage_dial (app : App) {β : Type} {g : BeaconRecord → Option β}
    {reg : BeaconRegistry} (conns : List Connection) {msg : MqttMessage} (now : Instant)
    {u : String} (h : dials reg msg = some u) {v : Option β}
    (hv : ∀ r : BeaconRecord,
      g { r with gatewayUrl := some u, gatewayShutdownTx := some ⟨conns.length⟩ } = v)
    (id : String) :
    field? g (onMessage app reg conns msg now).1 id =
      if recipient reg msg = some id then v else field? g reg id := by
  rw [(onMessage_dial_eq app conns now h).1, field?, record?_associateSender,
    BeaconRegistry.record?_insertGateway, record?_refreshSender]
  by_cases hs : senderOf msg.topic = some id
  · rw [if_pos hs, if_pos hs]
    cases hr : reg.record? id with
    | none =>
        have hno : recipient reg msg ≠ some id := by
          intro h'
          obtain ⟨-, r, hr'⟩ := recipient_eq_some.mp h'
          cases hr.symm.trans hr'
        rw [if_neg hno, field?, hr]
        rfl
    | some r =>
        rw [if_pos (recipient_eq_some.mpr ⟨hs, r, hr⟩)]
        exact hv { r with lastSeen := now }
  · rw [if_neg hs, if_neg hs, if_neg (fun h' => hs (recipient_eq_some.mp h').1), field?]

/-- A message that dials `u`: the URL becomes known, the connection is the newest, and the
    recipient — if there is one — holds URL and sender, whatever it held before. -/
theorem onMessage_dial (app : App) {reg : BeaconRegistry} (conns : List Connection)
    {msg : MqttMessage} (now : Instant) {u : String} (h : dials reg msg = some u) :
    (onMessage app reg conns msg now).1.knownGateways = insert u reg.knownGateways ∧
      (∀ id, url? (onMessage app reg conns msg now).1 id =
        if recipient reg msg = some id then some u else url? reg id) ∧
      ∀ id, tx? (onMessage app reg conns msg now).1 id =
        if recipient reg msg = some id then some ⟨conns.length⟩ else tx? reg id := by
  refine ⟨?_, field?_onMessage_dial app conns now h fun _ => rfl,
    field?_onMessage_dial app conns now h fun _ => rfl⟩
  rw [(onMessage_dial_eq app conns now h).1, associateSender,
    ← (sameLinks_refreshSender reg msg.topic now).known]
  cases senderOf msg.topic with
  | none => rfl
  | some id => exact BeaconRegistry.knownGateways_modifyRecord ..

-- ── What every run keeps ─────────────────────────────────────────────────────

/-- The invariant between records. Evicting a URL is safe because no other record has it, and
    associating a new one is safe because everything a record has is known. -/
structure GatewayInv (own : Option String) (reg : BeaconRegistry) (conns : List Connection) :
    Prop where
  own_known  : ∀ o, own = some o → o ∈ reg.knownGateways
  url_known  : ∀ id u, url? reg id = some u → u ∈ reg.knownGateways
  url_ne_own : ∀ id u, url? reg id = some u → own ≠ some u
  url_inj    : ∀ id id' u, url? reg id = some u → url? reg id' = some u → id = id'
  sender     : ∀ id u, url? reg id = some u →
    ∃ tx c, tx? reg id = some tx ∧ conns[tx.connection]? = some c ∧ c.gatewayUrl = u
  dialled    : ∀ c ∈ conns, own ≠ some c.gatewayUrl

/-- While a record is being deregistered, its URL is known, foreign, and nobody else's. -/
structure GatewayPending (own : Option String) (reg : BeaconRegistry) (conns : List Connection)
    (r : BeaconRecord) : Prop extends GatewayInv own reg conns where
  pending : ∀ u, r.gatewayUrl = some u →
    u ∈ reg.knownGateways ∧ own ≠ some u ∧ ∀ id, url? reg id ≠ some u

variable {own : Option String} {reg reg' : BeaconRegistry} {conns : List Connection}

theorem GatewayInv.congr (h : GatewayInv own reg conns) (hs : SameLinks reg reg') :
    GatewayInv own reg' conns where
  own_known := fun o ho => by rw [hs.known]; exact h.own_known o ho
  url_known := fun id u hu => by rw [hs.url] at hu; rw [hs.known]; exact h.url_known id u hu
  url_ne_own := fun id u hu => by rw [hs.url] at hu; exact h.url_ne_own id u hu
  url_inj := fun id id' u hu hu' => by
    rw [hs.url] at hu hu'; exact h.url_inj id id' u hu hu'
  sender := fun id u hu => by rw [hs.url] at hu; rw [hs.tx]; exact h.sender id u hu
  dialled := h.dialled

theorem GatewayInv.take {id : String} {r : BeaconRecord} (h : GatewayInv own reg conns)
    (hr : reg.record? id = some r) : GatewayPending own (reg.removeRecord id) conns r := by
  -- a URL that is still there belongs to another beacon
  have hother : ∀ {id' u}, url? (reg.removeRecord id) id' = some u →
      id' ≠ id ∧ url? reg id' = some u := by
    intro id' u hu
    rw [url?, field?_removeRecord] at hu
    by_cases hid : id' = id
    · rw [if_pos hid] at hu; exact nomatch hu
    · rw [if_neg hid] at hu; exact ⟨hid, hu⟩
  refine ⟨⟨h.own_known, ?_, ?_, ?_, ?_, h.dialled⟩, ?_⟩
  · intro id' u hu; exact h.url_known id' u (hother hu).2
  · intro id' u hu; exact h.url_ne_own id' u (hother hu).2
  · intro id₁ id₂ u hu hu'; exact h.url_inj id₁ id₂ u (hother hu).2 (hother hu').2
  · intro id' u hu
    obtain ⟨hid, hu'⟩ := hother hu
    obtain ⟨tx, c, htx, hc⟩ := h.sender id' u hu'
    exact ⟨tx, c, by rw [tx?, field?_removeRecord, if_neg hid]; exact htx, hc⟩
  · intro u hu
    have hid : url? reg id = some u := field?_eq_some.mpr ⟨r, hr, hu⟩
    refine ⟨h.url_known id u hid, h.url_ne_own id u hid, ?_⟩
    intro id' hu'
    obtain ⟨hne, hu''⟩ := hother hu'
    exact hne (h.url_inj id' id u hu'' hid)

theorem GatewayPending.finish {r : BeaconRecord} (h : GatewayPending own reg conns r) :
    GatewayInv own (reg.release r) conns where
  own_known := fun o ho => mem_known_release.mpr
    ⟨h.own_known o ho, fun hr => (h.pending o hr).2.1 ho⟩
  url_known := fun id u hu => by
    rw [url?, field?_release] at hu
    exact mem_known_release.mpr ⟨h.url_known id u hu, fun hr => (h.pending u hr).2.2 id hu⟩
  url_ne_own := fun id u hu => by rw [url?, field?_release] at hu; exact h.url_ne_own id u hu
  url_inj := fun id id' u hu hu' => by
    rw [url?, field?_release] at hu hu'; exact h.url_inj id id' u hu hu'
  sender := fun id u hu => by
    rw [url?, field?_release] at hu
    rw [tx?, field?_release]
    exact h.sender id u hu
  dialled := h.dialled

theorem GatewayInv.message (h : GatewayInv own reg conns) (app : App) (msg : MqttMessage)
    (now : Instant) :
    GatewayInv own (onMessage app reg conns msg now).1 (onMessage app reg conns msg now).2 := by
  cases hd : dials reg msg with
  | none =>
      obtain ⟨hsame, hconns⟩ := onMessage_idle app conns now hd
      rw [hconns]
      exact h.congr hsame
  | some u =>
      obtain ⟨hknown, hurl, htx⟩ := onMessage_dial app conns now hd
      obtain ⟨-, c, hcu, hconns⟩ := onMessage_dial_eq app conns now hd
      have hu : u ∉ reg.knownGateways := (dials_eq_some.mp hd).2
      rw [hconns]
      refine ⟨?_, ?_, ?_, ?_, ?_, ?_⟩
      · intro o ho
        rw [hknown]
        exact Finset.mem_insert_of_mem (h.own_known o ho)
      · intro id v hv
        rw [hurl] at hv
        rw [hknown]
        split at hv
        · rw [Option.some.inj hv]; exact Finset.mem_insert_self ..
        · exact Finset.mem_insert_of_mem (h.url_known id v hv)
      · intro id v hv
        rw [hurl] at hv
        split at hv
        · rw [← Option.some.inj hv]; exact fun ho => hu (h.own_known u ho)
        · exact h.url_ne_own id v hv
      · -- the new URL was unknown, so no record had it
        intro id id' v hv hv'
        rw [hurl] at hv hv'
        split at hv
        · rename_i hrec
          split at hv'
          · rename_i hrec'
            exact Option.some.inj (hrec.symm.trans hrec')
          · rw [← Option.some.inj hv] at hv'
            exact absurd (h.url_known id' u hv') hu
        · split at hv'
          · rw [← Option.some.inj hv'] at hv
            exact absurd (h.url_known id u hv) hu
          · exact h.url_inj id id' v hv hv'
      · intro id v hv
        rw [hurl] at hv
        rw [htx]
        split at hv
        · rename_i hrec
          rw [if_pos hrec]
          exact ⟨⟨conns.length⟩, c, rfl, List.getElem?_concat_length,
            hcu.trans (Option.some.inj hv)⟩
        · rename_i hrec
          rw [if_neg hrec]
          obtain ⟨tx, c', htx', hc', hcu'⟩ := h.sender id v hv
          refine ⟨tx, c', htx', ?_, hcu'⟩
          rw [List.getElem?_append_left (List.getElem?_eq_some_iff.mp hc').1]
          exact hc'
      · intro c' hc'
        rcases List.mem_append.mp hc' with hold | hnew
        · exact h.dialled c' hold
        · rw [List.mem_singleton.mp hnew, hcu]
          exact fun ho => hu (h.own_known u ho)

/-- The invariant of a state of the loop. -/
abbrev GatewayHolds (own : Option String) : LoopState → Prop :=
  Holds (GatewayInv own) (fun reg conns _ r => GatewayPending own reg conns r)

/-- One step of the loop keeps it, whatever is dropped. -/
theorem gatewayHolds_step {app : App} {s s' : LoopState} {e : Event} (h : GatewayHolds own s)
    (hstep : step app s e = some s') : GatewayHolds own s' := by
  refine h.step hstep (fun _ _ _ _ h hr => h.take hr) (fun _ _ _ _ h => h.finish)
    (fun _ _ _ _ h => h.toGatewayInv) ?_ ?_ (fun _ => ⟨fun _ _ h => h, fun _ _ _ _ h => h⟩)
  · rintro c now subscribed - h
    exact h.congr (sameLinks_registerChannel s.registry c now subscribed)
  · rintro msg now - h
    exact h.message app msg now

theorem gatewayHolds_init (app : App) : GatewayHolds app.ownGatewayUrl (.init app) := by
  have hnone : ∀ id u, url? (LoopState.init app).registry id ≠ some u := by
    intro id u hu
    obtain ⟨r, hr, -⟩ := field?_eq_some.mp hu
    rw [show (LoopState.init app).registry = .new app.ownGatewayUrl from rfl,
      BeaconRegistry.record?_new] at hr
    exact nomatch hr
  refine ⟨?_, fun id u hu => absurd hu (hnone id u), fun id u hu => absurd hu (hnone id u),
    fun id _ u hu => absurd hu (hnone id u), fun id u hu => absurd hu (hnone id u),
    fun c hc => nomatch hc⟩
  intro o ho
  show o ∈ app.ownGatewayUrl.toFinset
  rw [ho]
  exact Finset.mem_singleton_self o

/-- **Every reachable state satisfies the gateway invariant.** -/
theorem gatewayHolds_run (app : App) (es : List Event) (s : LoopState)
    (hrun : loopRun app es = some s) : GatewayHolds app.ownGatewayUrl s :=
  EventRun.run_induction (P := fun _ s => GatewayHolds app.ownGatewayUrl s)
    (gatewayHolds_init app) (fun _ _ _ _ _ ih hstep => gatewayHolds_step ih hstep) es s hrun

/-- What holds whether or not a record is being deregistered. -/
theorem GatewayHolds.inv {s : LoopState} (h : GatewayHolds own s) :
    GatewayInv own s.registry s.connections :=
  h.drop fun _ _ _ hq => hq.toGatewayInv

/-- Only a message that dials makes a connection. -/
theorem dials_of_connection {app : App} {s s' : LoopState} {e : Event} {c : Connection}
    (hstep : step app s e = some s') (hconns : s'.connections = s.connections ++ [c]) :
    ∃ msg now u, e = .message msg now ∧ dials s.registry msg = some u := by
  cases hd : e.dropsSweep with
  | false =>
      rw [connections_of_sweep hstep hd] at hconns
      exact nomatch List.self_eq_append_right.mp hconns
  | true =>
      cases e with
      | channel c' now subscribed =>
          rw [step_channel hstep] at hconns
          exact nomatch List.self_eq_append_right.mp hconns
      | message msg now =>
          cases hd' : dials s.registry msg with
          | none =>
              rw [step_message hstep] at hconns
              rw [(onMessage_idle app s.connections now hd').2] at hconns
              exact nomatch List.self_eq_append_right.mp hconns
          | some u => exact ⟨msg, now, u, rfl, hd'⟩
      | tick now stale => exact Bool.noConfusion hd
      | unsubscribed answer => exact Bool.noConfusion hd
      | topicsLocked => exact Bool.noConfusion hd

/-- **The own gateway is never dialled, nor is a gateway some record holds.** After any run the
    own URL is known, none of the connections made is to it and no record has it; the URL of
    every record is known; and a step that makes a connection makes it to a URL that no record
    has at that moment. -/
theorem own_gateway_never_dialled (app : App) (es : List Event) (s : LoopState)
    (hrun : loopRun app es = some s) :
    (∀ o, app.ownGatewayUrl = some o →
        o ∈ s.registry.knownGateways ∧ (∀ c ∈ s.connections, c.gatewayUrl ≠ o) ∧
          ∀ id r, s.registry.record? id = some r → r.gatewayUrl ≠ some o) ∧
      (∀ id r u, s.registry.record? id = some r → r.gatewayUrl = some u →
        u ∈ s.registry.knownGateways) ∧
      ∀ e s' c, step app s e = some s' → s'.connections = s.connections ++ [c] →
        ∀ id r, s.registry.record? id = some r → r.gatewayUrl ≠ some c.gatewayUrl := by
  have h := (gatewayHolds_run app es s hrun).inv
  have hurl : ∀ {id r u}, s.registry.record? id = some r → r.gatewayUrl = some u →
      url? s.registry id = some u := fun hr hu => field?_eq_some.mpr ⟨_, hr, hu⟩
  refine ⟨?_, fun id r u hr hu => h.url_known id u (hurl hr hu), ?_⟩
  · intro o ho
    refine ⟨h.own_known o ho, ?_, ?_⟩
    · rintro c hc rfl
      exact h.dialled c hc ho
    · intro id r hr hu
      exact h.url_ne_own id o (hurl hr hu) ho
  · intro e s' c hstep hconns id r hr hu
    obtain ⟨msg, now, u, rfl, hd⟩ := dials_of_connection hstep hconns
    obtain ⟨-, c', hcu, hconns'⟩ := onMessage_dial_eq app s.connections now hd
    rw [step_message hstep] at hconns
    -- the connection added is the one to the URL the message dials, and that one was unknown
    obtain rfl : c' = c :=
      List.singleton_inj.mp (List.append_cancel_left (hconns'.symm.trans hconns))
    rw [hcu] at hu
    exact (dials_eq_some.mp hd).2 (h.url_known id u (hurl hr hu))

/-- A node with a gateway of its own. -/
def gatewayApp : App where
  serverUrl     := "http://localhost:8080"
  ownGatewayUrl := some "http://own"

/-- A message that advertises a gateway URL. -/
def advert (topic url : String) : MqttMessage where
  topic   := topic
  payload := .json (.object [("gateway_url", .string url)])

/-- Two beacons register; the first advertises the own gateway, then a foreign one. -/
def twoBeacons (url : String) : List Event :=
  [.channel (listenChannel "b1") 0 (.ok ()), .channel (listenChannel "b2") 0 (.ok ()),
   .message (advert "b1/rec" "http://own") 0, .message (advert "b1/rec" url) 0]

/-- The safety theorem at a run in which the own gateway is advertised. -/
theorem own_gateway_never_dialled_twoBeacons :
    ∃ s, loopRun gatewayApp (twoBeacons "http://gw") = some s ∧
      "http://own" ∈ s.registry.knownGateways ∧ s.connections.length = 1 ∧
      ∀ c ∈ s.connections, c.gatewayUrl ≠ "http://own" := by
  refine ⟨_, rfl, ?_, by decide, ?_⟩
  · exact ((own_gateway_never_dialled gatewayApp (twoBeacons "http://gw") _ rfl).1 _ rfl).1
  · exact ((own_gateway_never_dialled gatewayApp (twoBeacons "http://gw") _ rfl).1 _ rfl).2.1

end HamletGatewayLink
