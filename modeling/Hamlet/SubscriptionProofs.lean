import Hamlet.BroadcastTopicProofs

/-!
# Subscriptions of the local MQTT client across reconnects

What the node wants to hear is decided in two places: `App::initialize` subscribes to the required
topics after the first ConnAck, and `register_channel` subscribes to the listen topic of every new
beacon. Both calls go through the command task into the request queue of the MQTT client, and from
there, while there is a connection, to the broker. The broker keeps the set of subscriptions — of a
CLEAN session, so that it forgets them when the connection ends — and nothing in the event loop
subscribes again.

The system is the message loop (`HamletRegistry.step`) with that path attached to it:

* `calling` — the call of the client handle that the start-up or the loop is suspended in;
* `commandTask` — the command task puts the request of that call, or of a call whose caller has
  been dropped, into the queue;
* `transmit`, `connAck`, `connectionLost` — the event loop and the broker.

Neither subscriptions nor requests survive the loss of a connection: at a poll error the MQTT client
drains its request queue into a list of pending packets, which it clears at the ConnAck of a session
that is not present. What is queued between the loss and the next ConnAck is sent on the new
connection. `subscribed_throughout` gives the condition under which the broker's set is right in
every state of a run; `not_subscribed_of_uncovered` shows that a ConnAck that misses it is one
drained queue away from a wrong set.
-/

namespace HamletSubscription

open HamletRegistry HamletBroadcastTopic

-- ── The system ───────────────────────────────────────────────────────────────

/-- A request in the queue of the MQTT client. -/
inductive Request where
  | subscribe (topic : String) (qos : QoS)
  | unsubscribe (topic : String)
  | publish (topic : String)
  deriving DecidableEq, Repr

/-- `required_subscriptions`. -/
def requiredSubscriptions : List (String × QoS) :=
  [("registration", .atLeastOnce), ("key-bridge", .atLeastOnce)]

structure State where
  loop        : LoopState
  /-- What `subscribe_all` still has to subscribe to; the message loop runs when it is empty. -/
  startup     : List (String × QoS)
  /-- The required topics that were subscribed to successfully. -/
  required    : List String
  /-- The channel that `register_channel` is working on. -/
  registering : Option (TopicChannel × Instant)
  /-- The request of the call under way has been put into the queue. -/
  issued      : Bool
  /-- Commands of calls whose caller has been dropped, not yet taken by the command task. -/
  orphans     : List Request
  requests    : List Request
  /-- `connected_tx` has been fired: there was a ConnAck. -/
  connected   : Bool
  /-- The broker's subscriptions of this client, while there is a connection. -/
  session     : Option (Finset String)

/-- The node before the first ConnAck. -/
def State.init (app : App) : State where
  loop        := .init app
  startup     := requiredSubscriptions
  required    := []
  registering := none
  issued      := false
  orphans     := []
  requests    := []
  connected   := false
  session     := none

/-- The request of a subscribing channel. -/
def subscribeRequest (c : TopicChannel) : Option Request :=
  match c.topicType with
  | .broadcast => none
  | _ => some (.subscribe c.topic.topic (qosFromU8 c.topic.qos))

/-- The request of the call of the client handle that is under way, if there is one: the start-up
    subscribes, `register_channel` subscribes, the sweep unsubscribes. -/
def State.calling (s : State) : Option Request :=
  match s.registering, s.startup with
  | some (c, _), _ => subscribeRequest c
  | none, (topic, qos) :: _ => some (.subscribe topic qos)
  | none, [] =>
      match s.loop.sweep with
      | .unsubscribing _ record _ => some (.unsubscribe record.listenTopic)
      | _ => none

/-- What the broker makes of a request. -/
def Request.apply (subs : Finset String) : Request → Finset String
  | .subscribe topic _ => insert topic subs
  | .unsubscribe topic => subs.erase topic
  | .publish _ => subs

inductive Event where
  /-- A ConnAck: a new session without subscriptions. -/
  | connAck
  /-- `poll` returns an error: the session is over, and what was queued for it is never sent. -/
  | connectionLost
  /-- The event loop sends the next request. -/
  | transmit
  /-- The command task takes the next command. -/
  | commandTask
  /-- The broadcast loop publishes. -/
  | broadcast (topic : String)
  /-- `subscribe_all` gets the answer for its next topic. -/
  | startup (answer : Except String Unit)
  /-- There is no broker to connect to: nothing is subscribed at start-up. -/
  | startupSkipped
  /-- The message loop receives a channel and enters `register_channel`; `sent` says whether the
      command of a call that is dropped by it is in the command queue already. -/
  | receive (c : TopicChannel) (now : Instant) (sent : Bool)
  /-- `register_channel` returns. -/
  | registered (answer : Except String Unit)
  /-- Another event of the message loop; `sent` as before. -/
  | loop (e : HamletRegistry.Event) (sent : Bool)

/-- The commands left behind when the call under way is dropped. -/
def State.dropCall (s : State) (sent : Bool) : List Request :=
  if s.issued then s.orphans
  else if sent then s.orphans ++ s.calling.toList
  else s.orphans

/-- A call is answered `Ok` when its request is in the queue. -/
def State.answers (s : State) (answer : Except String Unit) : Bool :=
  match answer with
  | .ok () => s.calling.isNone || s.issued
  | .error _ => !s.issued

/-- What the message loop may do next: a registration goes through `receive`, and an
    unsubscription is answered when it is. -/
def State.admits (s : State) : HamletRegistry.Event → Bool
  | .channel .. => false
  | .unsubscribed answer => s.answers answer
  | _ => true

def step (app : App) (s : State) : Event → Option State
  | .connAck =>
      match s.session with
      | none => some { s with session := some ∅, connected := true }
      | some _ => none
  | .connectionLost =>
      match s.session with
      | none => none
      | some _ => some { s with session := none, requests := [] }
  | .transmit =>
      match s.session, s.requests with
      | some subs, r :: rest => some { s with session := some (r.apply subs), requests := rest }
      | _, _ => none
  | .commandTask =>
      match s.orphans with
      | r :: rest => some { s with orphans := rest, requests := s.requests ++ [r] }
      | [] =>
          match s.calling with
          | some r =>
              -- the start-up does not call before the first ConnAck
              if s.issued || (!s.connected && !s.startup.isEmpty) then none
              else some { s with issued := true, requests := s.requests ++ [r] }
          | none => none
  | .broadcast topic =>
      if s.startup = [] then some { s with requests := s.requests ++ [.publish topic] } else none
  | .startup answer =>
      match s.startup with
      | [] => none
      | (topic, _) :: rest =>
          if s.connected ∧ s.registering = none ∧ s.answers answer then
            match answer with
            | .ok () => some { s with startup := rest, required := s.required ++ [topic],
                                      issued := false }
            | .error _ => some { s with startup := [], issued := false }
          else none
  | .startupSkipped =>
      if s.connected then none else some { s with startup := [], issued := false }
  | .receive c now sent =>
      if s.startup = [] ∧ s.registering = none then
        some { s with registering := some (c, now), issued := false, orphans := s.dropCall sent }
      else none
  | .registered answer =>
      match s.registering with
      | none => none
      | some (c, now) =>
          if s.answers answer then
            (HamletRegistry.step app s.loop (.channel c now answer)).map fun loop =>
              { s with loop := loop, registering := none, issued := false }
          else none
  | .loop e sent =>
      if s.startup = [] ∧ s.registering = none ∧ s.admits e then
        (HamletRegistry.step app s.loop e).map fun loop =>
          { s with loop := loop, issued := false
                   orphans := if e.dropsSweep then s.dropCall sent else s.orphans }
      else none

/-- A run of the system from its start. -/
abbrev systemRun (app : App) (es : List Event) : Option State :=
  EventRun.run (step app) (.init app) es

-- ── What the broker should know ──────────────────────────────────────────────

/-- The channels that the message loop has received. -/
def received (es : List Event) : List TopicChannel :=
  es.filterMap fun
    | .receive c _ _ => some c
    | _ => none

/-- The listen topic of a record, once it has one. -/
def listenOf (r : BeaconRecord) : Option String :=
  if r.listenTopic = "" then none else some r.listenTopic

/-- The listen topic of a registered beacon. -/
abbrev listen? : BeaconRegistry → String → Option String := field? listenOf

/-- When the client is connected and has sent everything, the broker has the required topics that
    were subscribed to at start-up, and the listen topic of every record. -/
def Subscribed (s : State) : Prop :=
  ∀ subs, s.session = some subs → s.requests = [] →
    (∀ t ∈ s.required, t ∈ subs) ∧
      ∀ id r, s.loop.registry.record? id = some r → r.listenTopic ≠ "" → r.listenTopic ∈ subs

/-- The topics the broker has to know, now or when the call under way returns. -/
def State.Expected (s : State) (t : String) : Prop :=
  t ∈ s.required ∨ (∃ id, listen? s.loop.registry id = some t) ∨
    s.issued = true ∧ ∃ qos, s.calling = some (.subscribe t qos)

/-- The topic is known to the broker, or going to be. -/
def State.Covered (s : State) (t : String) : Prop := ∃ qos, .subscribe t qos ∈ s.requests

/-- The condition on a step: a new session begins with the subscriptions of all expected topics in
    the queue. -/
def CoveredAtConnAck (s : State) (e : Event) : Prop :=
  e = .connAck → ∀ t, s.Expected t → s.Covered t

-- ── Topics that are unsubscribed are not wanted any more ─────────────────────

/-- An unsubscription of the topic is on its way. -/
def State.Leaving (s : State) (t : String) : Prop :=
  .unsubscribe t ∈ s.requests ∨ .unsubscribe t ∈ s.orphans

/-- The listen topic of a beacon is its own, from the one channel it was registered with; a topic
    that is being unsubscribed was that of a beacon which has none any more. -/
structure ListenInv (cs : List TopicChannel) (leaving : String → Prop) (reg : BeaconRegistry) :
    Prop where
  listed  : ∀ id t, listen? reg id = some t → t = receiveTopic id ∧ listenChannel id ∈ cs
  leaving : ∀ t, leaving t → ∃ id, t = receiveTopic id ∧ listenChannel id ∈ cs ∧
    listen? reg id = none

/-- The same while a record is being deregistered. -/
structure ListenPending (cs : List TopicChannel) (leaving : String → Prop) (reg : BeaconRegistry)
    (id : String) (r : BeaconRecord) : Prop extends ListenInv cs leaving reg where
  removed : listen? reg id = none
  pending : ∀ t, listenOf r = some t → t = receiveTopic id ∧ listenChannel id ∈ cs

section ListenInv

variable {cs : List TopicChannel} {leaving leaving' : String → Prop} {reg : BeaconRegistry}

theorem ListenInv.anti (h : ListenInv cs leaving reg) (hsub : ∀ t, leaving' t → leaving t) :
    ListenInv cs leaving' reg :=
  ⟨h.listed, fun t ht => h.leaving t (hsub t ht)⟩

theorem ListenPending.anti {id : String} {r : BeaconRecord} (h : ListenPending cs leaving reg id r)
    (hsub : ∀ t, leaving' t → leaving t) : ListenPending cs leaving' reg id r :=
  ⟨h.toListenInv.anti hsub, h.removed, h.pending⟩

theorem ListenInv.take {id : String} {r : BeaconRecord} (h : ListenInv cs leaving reg)
    (hr : reg.record? id = some r) : ListenPending cs leaving (reg.removeRecord id) id r := by
  have hother : ∀ {id' t},
      listen? (reg.removeRecord id) id' = some t → listen? reg id' = some t := by
    intro id' t ht
    rw [listen?, field?_removeRecord] at ht
    split at ht
    · exact nomatch ht
    · exact ht
  refine ⟨⟨fun id' t ht => h.listed id' t (hother ht), ?_⟩, ?_, ?_⟩
  · intro t ht
    obtain ⟨id', he, hc, hnone⟩ := h.leaving t ht
    refine ⟨id', he, hc, ?_⟩
    rw [listen?, field?_removeRecord]
    split
    · rfl
    · exact hnone
  · rw [listen?, field?_removeRecord, if_pos rfl]
  · exact fun t ht => h.listed id t (field?_eq_some.mpr ⟨r, hr, ht⟩)

theorem ListenPending.finish {id : String} {r : BeaconRecord}
    (h : ListenPending cs leaving reg id r) : ListenInv cs leaving (reg.release r) := by
  refine ⟨fun id' t ht => ?_, fun t ht => ?_⟩
  · rw [listen?, field?_release] at ht
    exact h.listed id' t ht
  · obtain ⟨id', he, hc, hnone⟩ := h.leaving t ht
    exact ⟨id', he, hc, by rw [listen?, field?_release]; exact hnone⟩

/-- A message changes no listen topic. -/
theorem listen?_onMessage (app : App) (reg : BeaconRegistry)
    (conns : List HamletCloudGateway.Connection) (msg : MqttMessage) (now : Instant) (id : String) :
    listen? (onMessage app reg conns msg now).1 id = listen? reg id := by
  have hrefresh : listen? (refreshSender reg msg.topic now) id = listen? reg id := by
    rw [refreshSender]
    cases senderOf msg.topic with
    | none => rfl
    | some id' =>
        exact field?_modifyRecord reg (f := fun r => { r with lastSeen := now }) (fun _ => rfl) id
  rw [onMessage]
  cases HamletRegistry.advertisedGateway msg.payload.value with
  | none => exact hrefresh
  | some u =>
      simp only []
      by_cases hk : (refreshSender reg msg.topic now).isGatewayKnown u = true
      · rw [if_pos hk]; exact hrefresh
      · rw [if_neg hk, associateSender]
        cases senderOf msg.topic with
        | none => exact hrefresh
        | some id' =>
            refine Eq.trans ?_ hrefresh
            exact field?_modifyRecord ((refreshSender reg msg.topic now).insertGateway u)
              (f := fun r =>
                { r with gatewayUrl := some u, gatewayShutdownTx := some ⟨conns.length⟩ })
              (fun _ => rfl) id

/-- Registering a channel of a handshake: a listen topic appears with a listen channel that was
    subscribed to. -/
theorem listen?_registerChannel (reg : BeaconRegistry) (id : String) (now : Instant)
    (answer : Except String Unit) (id' : String) :
    listen? (reg.registerChannel (broadcastChannel id) now answer) id' = listen? reg id' ∧
      listen? (reg.registerChannel (listenChannel id) now answer) id' =
        if id' = id ∧ answer = .ok () then some (receiveTopic id) else listen? reg id' := by
  have hensure := field?_ensureRecord (g := listenOf) reg id now rfl id'
  refine ⟨?_, ?_⟩
  · refine Eq.trans ?_ hensure
    exact field?_modifyRecord ((reg.ensureRecord id now).pushTopic (broadcastTopic id))
      (f := fun r => { r with broadcastTopic := broadcastTopic id }) (fun _ => rfl) id'
  cases answer with
  | error e =>
      rw [if_neg (fun h => nomatch h.2)]
      exact hensure
  | ok u =>
      show field? _ (BeaconRegistry.modifyRecord _ id _) id' = _
      rw [field?, BeaconRegistry.record?_modifyRecord]
      by_cases h : id' = id
      · rw [if_pos h, if_pos ⟨h, rfl⟩]
        show ((Option.map _ ((reg.ensureRecord id now).record? id)).bind _) = _
        rw [BeaconRegistry.record?_ensureRecord, if_pos rfl]
        exact if_neg (HamletRegistry.receiveTopic_ne_empty id)
      · rw [if_neg h, if_neg (fun h' => h h'.1)]
        exact hensure

/-- The channel of a new handshake is no channel of a beacon that is leaving. -/
theorem ListenInv.channel {c : TopicChannel} (h : ListenInv cs leaving reg) (now : Instant)
    (answer : Except String Unit) (hcs : FromHandshakes (cs ++ [c])) :
    ListenInv (cs ++ [c]) leaving (reg.registerChannel c now answer) := by
  obtain ⟨id, rfl | rfl⟩ := hcs.2 c (List.mem_append_right cs List.mem_cons_self)
  · have hnew : listenChannel id ∉ cs := fun hmem =>
      (List.nodup_append.mp hcs.1).2.2 _ hmem _ List.mem_cons_self rfl
    refine ⟨fun id' t ht => ?_, fun t ht => ?_⟩
    · rw [(listen?_registerChannel reg id now answer id').2] at ht
      split at ht
      · rename_i hid
        rw [hid.1]
        exact ⟨(Option.some.inj ht).symm, List.mem_append_right cs List.mem_cons_self⟩
      · obtain ⟨he, hc⟩ := h.listed id' t ht
        exact ⟨he, List.mem_append_left _ hc⟩
    · obtain ⟨id', he, hc, hnone⟩ := h.leaving t ht
      refine ⟨id', he, List.mem_append_left _ hc, ?_⟩
      have hid : ¬ (id' = id ∧ answer = .ok ()) := by
        rintro ⟨rfl, -⟩
        exact hnew hc
      rw [(listen?_registerChannel reg id now answer id').2, if_neg hid]
      exact hnone
  · refine ⟨fun id' t ht => ?_, fun t ht => ?_⟩
    · rw [(listen?_registerChannel reg id now answer id').1] at ht
      obtain ⟨he, hc⟩ := h.listed id' t ht
      exact ⟨he, List.mem_append_left _ hc⟩
    · obtain ⟨id', he, hc, hnone⟩ := h.leaving t ht
      refine ⟨id', he, List.mem_append_left _ hc, ?_⟩
      rw [(listen?_registerChannel reg id now answer id').1]
      exact hnone

theorem ListenInv.message (h : ListenInv cs leaving reg) (app : App)
    (conns : List HamletCloudGateway.Connection) (msg : MqttMessage) (now : Instant) :
    ListenInv cs leaving (onMessage app reg conns msg now).1 := by
  have hsame := listen?_onMessage app reg conns msg now
  refine ⟨fun id t ht => ?_, fun t ht => ?_⟩
  · rw [hsame] at ht
    exact h.listed id t ht
  · obtain ⟨id, he, hc, hnone⟩ := h.leaving t ht
    exact ⟨id, he, hc, by rw [hsame]; exact hnone⟩

end ListenInv

-- ── The transitions of the system ────────────────────────────────────────────

/-- Everything one event can do, with the guards it passed. -/
inductive Transition (app : App) (s : State) : Event → State → Prop
  | connAck (hs : s.session = none) :
      Transition app s .connAck { s with session := some ∅, connected := true }
  | connectionLost : Transition app s .connectionLost { s with session := none, requests := [] }
  | transmit {subs : Finset String} {r : Request} {rest : List Request}
      (hs : s.session = some subs) (hr : s.requests = r :: rest) :
      Transition app s .transmit { s with session := some (r.apply subs), requests := rest }
  | orphan {r : Request} {rest : List Request} (ho : s.orphans = r :: rest) :
      Transition app s .commandTask { s with orphans := rest, requests := s.requests ++ [r] }
  | issue {r : Request} (hcall : s.calling = some r) :
      Transition app s .commandTask { s with issued := true, requests := s.requests ++ [r] }
  | broadcast (topic : String) :
      Transition app s (.broadcast topic) { s with requests := s.requests ++ [.publish topic] }
  | startupOk {topic : String} {qos : QoS} {rest : List (String × QoS)}
      (hs : s.startup = (topic, qos) :: rest) (hissued : s.issued = true)
      (hcall : s.calling = some (.subscribe topic qos)) :
      Transition app s (.startup (.ok ()))
        { s with startup := rest, required := s.required ++ [topic], issued := false }
  | startupError (e : String) :
      Transition app s (.startup (.error e)) { s with startup := [], issued := false }
  | startupSkipped : Transition app s .startupSkipped { s with startup := [], issued := false }
  | receive (c : TopicChannel) (now : Instant) (sent : Bool) (hr : s.registering = none) :
      Transition app s (.receive c now sent)
        { s with registering := some (c, now), issued := false, orphans := s.dropCall sent }
  | registered {c : TopicChannel} {now : Instant} {answer : Except String Unit} {loop : LoopState}
      (hr : s.registering = some (c, now)) (ha : s.answers answer = true)
      (hl : HamletRegistry.step app s.loop (.channel c now answer) = some loop) :
      Transition app s (.registered answer)
        { s with loop := loop, registering := none, issued := false }
  | loop {e : HamletRegistry.Event} {sent : Bool} {loop : LoopState}
      (he : ∀ c now answer, e ≠ .channel c now answer) (hr : s.registering = none)
      (hl : HamletRegistry.step app s.loop e = some loop) :
      Transition app s (.loop e sent)
        { s with loop := loop, issued := false
                 orphans := if e.dropsSweep then s.dropCall sent else s.orphans }

theorem transition_of_step {app : App} {s s' : State} {e : Event} (h : step app s e = some s') :
    Transition app s e s' := by
  cases e with
  | connAck =>
      cases hs : s.session with
      | some subs => simp [step, hs] at h
      | none => simp only [step, hs, Option.some.injEq] at h; exact h ▸ .connAck hs
  | connectionLost =>
      cases hs : s.session with
      | none => simp [step, hs] at h
      | some subs => simp only [step, hs, Option.some.injEq] at h; exact h ▸ .connectionLost
  | transmit =>
      cases hs : s.session with
      | none => simp [step, hs] at h
      | some subs =>
          cases hr : s.requests with
          | nil => simp [step, hs, hr] at h
          | cons r rest =>
              simp only [step, hs, hr, Option.some.injEq] at h
              exact h ▸ .transmit hs hr
  | commandTask =>
      obtain ⟨loop, startup, required, registering, issued, orphans, requests, connected,
        session⟩ := s
      cases orphans with
      | cons r rest => exact Option.some.inj h ▸ .orphan rfl
      | nil =>
          simp only [step] at h
          split at h
          · rename_i r hcall
            split at h
            · exact nomatch h
            · exact Option.some.inj h ▸ .issue hcall
          · exact nomatch h
  | broadcast topic =>
      simp only [step] at h
      split at h
      · exact Option.some.inj h ▸ .broadcast topic
      · exact nomatch h
  | startup answer =>
      cases hs : s.startup with
      | nil => simp [step, hs] at h
      | cons x rest =>
          obtain ⟨topic, qos⟩ := x
          simp only [step, hs] at h
          split at h
          · rename_i hguard
            obtain ⟨-, hreg, hans⟩ := hguard
            have hcall : s.calling = some (.subscribe topic qos) := by
              rw [State.calling, hreg, hs]
            cases answer with
            | ok u =>
                have hissued : s.issued = true := by simpa [State.answers, hcall] using hans
                exact Option.some.inj h ▸ .startupOk hs hissued hcall
            | error e => exact Option.some.inj h ▸ .startupError e
          · exact nomatch h
  | startupSkipped =>
      simp only [step] at h
      split at h
      · exact nomatch h
      · exact Option.some.inj h ▸ .startupSkipped
  | receive c now sent =>
      simp only [step] at h
      split at h
      · rename_i hguard
        exact Option.some.inj h ▸ .receive c now sent hguard.2
      · exact nomatch h
  | registered answer =>
      cases hr : s.registering with
      | none => simp [step, hr] at h
      | some x =>
          obtain ⟨c, now⟩ := x
          simp only [step, hr] at h
          split at h
          · rename_i ha
            obtain ⟨loop, hl, rfl⟩ := Option.map_eq_some_iff.mp h
            exact .registered hr ha hl
          · exact nomatch h
  | loop e sent =>
      simp only [step] at h
      split at h
      · rename_i hguard
        obtain ⟨loop, hl, rfl⟩ := Option.map_eq_some_iff.mp h
        refine .loop ?_ hguard.2.1 hl
        rintro c now answer rfl
        exact Bool.noConfusion hguard.2.2
      · exact nomatch h

-- ── What every run keeps ─────────────────────────────────────────────────────

/-- The channel that is being registered. -/
def State.inFlight (s : State) : List TopicChannel := (s.registering.map Prod.fst).toList

/-- The listen invariant of the message loop in a state of the system. -/
abbrev ListenHolds (cs : List TopicChannel) (leaving : String → Prop) : LoopState → Prop :=
  Holds (fun reg _ => ListenInv cs leaving reg) (fun reg _ id r => ListenPending cs leaving reg id r)

/-- `cs` are the channels whose registration has ended. -/
structure SystemInv (cs : List TopicChannel) (s : State) : Prop where
  loop     : ListenHolds cs s.Leaving s.loop
  required : ∀ t ∈ s.required, ∃ qos, (t, qos) ∈ requiredSubscriptions
  startup  : ∀ x ∈ s.startup, x ∈ requiredSubscriptions

/-- Only the sweep unsubscribes, from the topic of the record it holds. -/
theorem calling_unsubscribe {s : State} {t : String} (h : s.calling = some (.unsubscribe t)) :
    ∃ id r rest, s.loop.sweep = .unsubscribing id r rest ∧ t = r.listenTopic := by
  rw [State.calling] at h
  split at h
  · rename_i c now _ _
    rw [subscribeRequest] at h
    split at h <;> exact nomatch h
  · exact nomatch h
  · split at h
    · rename_i id r rest hsweep
      exact ⟨id, r, rest, hsweep, (Request.unsubscribe.inj (Option.some.inj h)).symm⟩
    · exact nomatch h

/-- The topic that the sweep unsubscribes from may join those that are leaving. -/
theorem ListenHolds.extend {cs : List TopicChannel} {s : State} {leaving leaving' : String → Prop}
    (h : ListenHolds cs leaving s.loop)
    (hsub : ∀ t, leaving' t → leaving t ∨ s.calling = some (.unsubscribe t)) :
    ListenHolds cs leaving' s.loop := by
  by_cases hcall : ∃ t, s.calling = some (.unsubscribe t)
  · obtain ⟨t, ht⟩ := hcall
    obtain ⟨id, r, rest, hsweep, rfl⟩ := calling_unsubscribe ht
    rcases hloop : s.loop with ⟨reg, fut, conns⟩
    rw [hloop] at h hsweep
    obtain rfl : fut = .unsubscribing id r rest := hsweep
    obtain ⟨hp, hne⟩ := h
    have hlisten : listenOf r = some r.listenTopic := if_neg hne
    refine ⟨⟨⟨hp.listed, fun t' ht' => ?_⟩, hp.removed, hp.pending⟩, hne⟩
    rcases hsub t' ht' with hold | hnew
    · exact hp.leaving t' hold
    · obtain rfl := Request.unsubscribe.inj (Option.some.inj (hnew.symm.trans ht))
      obtain ⟨he, hc⟩ := hp.pending _ hlisten
      exact ⟨id, he, hc, hp.removed⟩
  · have hsub' : ∀ t, leaving' t → leaving t := by
      intro t ht
      rcases hsub t ht with hold | hnew
      · exact hold
      · exact absurd ⟨t, hnew⟩ hcall
    exact h.mono (fun _ _ h => h.anti hsub') fun _ _ _ _ h => h.anti hsub'

/-- A dropped call leaves its own command behind, if anything. -/
theorem mem_dropCall {s : State} {sent : Bool} {r : Request} (h : r ∈ s.dropCall sent) :
    r ∈ s.orphans ∨ s.calling = some r := by
  rw [State.dropCall] at h
  split at h
  · exact .inl h
  · split at h
    · rcases List.mem_append.mp h with h | h
      · exact .inl h
      · exact .inr (Option.mem_toList.mp h)
    · exact .inl h

theorem received_append (p q : List Event) : received (p ++ q) = received p ++ received q :=
  List.filterMap_append

/-- One step of the system keeps the invariant, with the channels that it has received. -/
theorem systemInv_step {app : App} {cs : List TopicChannel} {s s' : State} {e : Event}
    (h : SystemInv cs s) (hcs : FromHandshakes (cs ++ s.inFlight ++ received [e]))
    (hstep : step app s e = some s') :
    ∃ cs', cs ++ s.inFlight ++ received [e] = cs' ++ s'.inFlight ∧ SystemInv cs' s' := by
  have hstay : received [e] = [] → s'.registering = s.registering → SystemInv cs s' →
      ∃ cs', cs ++ s.inFlight ++ received [e] = cs' ++ s'.inFlight ∧ SystemInv cs' s' := by
    intro hrec hreg hinv
    exact ⟨cs, by rw [hrec, List.append_nil, State.inFlight, State.inFlight, hreg], hinv⟩
  cases transition_of_step hstep with
  | connAck hs => exact hstay rfl rfl ⟨h.loop, h.required, h.startup⟩
  | connectionLost =>
      refine hstay rfl rfl ⟨h.loop.extend fun t ht => .inl ?_, h.required, h.startup⟩
      rcases ht with ht | ht
      · exact absurd ht List.not_mem_nil
      · exact .inr ht
  | transmit hs hr =>
      refine hstay rfl rfl ⟨h.loop.extend fun t ht => .inl ?_, h.required, h.startup⟩
      rw [State.Leaving, hr]
      exact ht.imp_left (List.mem_cons_of_mem _)
  | orphan ho =>
      refine hstay rfl rfl ⟨h.loop.extend fun t ht => .inl ?_, h.required, h.startup⟩
      rw [State.Leaving, ho]
      rcases ht with ht | ht
      · rcases List.mem_append.mp ht with ht | ht
        · exact .inl ht
        · exact .inr (List.mem_singleton.mp ht ▸ List.mem_cons_self)
      · exact .inr (List.mem_cons_of_mem _ ht)
  | issue hcall =>
      refine hstay rfl rfl ⟨h.loop.extend fun t ht => ?_, h.required, h.startup⟩
      rcases ht with ht | ht
      · rcases List.mem_append.mp ht with ht | ht
        · exact .inl (.inl ht)
        · rw [List.mem_singleton.mp ht]; exact .inr hcall
      · exact .inl (.inr ht)
  | broadcast topic =>
      refine hstay rfl rfl ⟨h.loop.extend fun t ht => .inl ?_, h.required, h.startup⟩
      rcases ht with ht | ht
      · rcases List.mem_append.mp ht with ht | ht
        · exact .inl ht
        · exact nomatch List.mem_singleton.mp ht
      · exact .inr ht
  | startupOk hs hissued hcall =>
      rename_i topic qos rest
      have hstart := h.startup
      rw [hs] at hstart
      refine hstay rfl rfl ⟨h.loop, ?_, fun x hx => hstart x (List.mem_cons_of_mem _ hx)⟩
      intro t ht
      rcases List.mem_append.mp ht with ht | ht
      · exact h.required t ht
      · rw [List.mem_singleton.mp ht]
        exact ⟨qos, hstart _ List.mem_cons_self⟩
  | startupError e => exact hstay rfl rfl ⟨h.loop, h.required, fun x hx => nomatch hx⟩
  | startupSkipped => exact hstay rfl rfl ⟨h.loop, h.required, fun x hx => nomatch hx⟩
  | receive c now sent hr =>
      refine ⟨cs, ?_, ⟨h.loop.extend fun t ht => ?_, h.required, h.startup⟩⟩
      · rw [State.inFlight, hr]
        exact congrArg (· ++ [c]) (List.append_nil cs)
      · rcases ht with ht | ht
        · exact .inl (.inl ht)
        · exact (mem_dropCall ht).imp_left .inr
  | registered hr ha hl =>
      rename_i c now answer loop
      rw [State.inFlight, hr] at hcs ⊢
      have hcs' : FromHandshakes (cs ++ [c]) := by simpa [received] using hcs
      refine ⟨cs ++ [c], by simp [received, State.inFlight], ⟨?_, h.required, h.startup⟩⟩
      refine h.loop.step hl (fun _ _ _ _ h hr => h.take hr) (fun _ _ _ _ h => h.finish)
        (fun _ _ _ _ h => h.toListenInv) ?_ (fun _ _ h => nomatch h) (fun h => Bool.noConfusion h)
      rintro c' now' answer' heq h
      obtain ⟨rfl, rfl, rfl⟩ := HamletRegistry.Event.channel.inj heq
      exact h.channel now answer hcs'
  | loop he hr hl =>
      rename_i e sent loop
      refine hstay rfl rfl ⟨?_, h.required, h.startup⟩
      have hext : ListenHolds cs (State.Leaving { s with
          loop := loop, issued := false
          orphans := if e.dropsSweep then s.dropCall sent else s.orphans }) s.loop := by
        refine h.loop.extend fun t ht => ?_
        rcases ht with ht | ht
        · exact .inl (.inl ht)
        · have ht' : Request.unsubscribe t ∈
              if e.dropsSweep then s.dropCall sent else s.orphans := ht
          split at ht'
          · exact (mem_dropCall ht').imp_left .inr
          · exact .inl (.inr ht')
      refine hext.step hl (fun _ _ _ _ h hr => h.take hr) (fun _ _ _ _ h => h.finish)
        (fun _ _ _ _ h => h.toListenInv) ?_ ?_ (fun _ => ⟨fun _ _ h => h, fun _ _ _ _ h => h⟩)
      · intro c now answer heq
        exact absurd heq (he c now answer)
      · rintro msg now - h
        exact h.message app s.loop.connections msg now

/-- **Every run keeps the system invariant.** -/
theorem systemInv_run (app : App) (es : List Event) (s : State) (hrun : systemRun app es = some s)
    (hcs : FromHandshakes (received es)) :
    ∃ cs, received es = cs ++ s.inFlight ∧ SystemInv cs s := by
  revert hcs
  refine EventRun.run_induction (P := fun es s => FromHandshakes (received es) →
    ∃ cs, received es = cs ++ s.inFlight ∧ SystemInv cs s) ?_ ?_ es s hrun
  · intro _
    have hnone : ∀ id, listen? (State.init app).loop.registry id = none := by
      intro id
      show ((BeaconRegistry.new app.ownGatewayUrl).record? id).bind listenOf = none
      rw [BeaconRegistry.record?_new]
      rfl
    refine ⟨[], rfl, ⟨?_, ?_⟩, fun t ht => (nomatch ht), fun x hx => hx⟩
    · intro id t ht
      exact nomatch (hnone id).symm.trans ht
    · rintro t (ht | ht) <;> exact nomatch ht
  · intro es e s s' _ ih hstep hcs
    rw [received_append] at hcs ⊢
    obtain ⟨cs, hrec, hinv⟩ := ih hcs.left
    rw [hrec] at hcs ⊢
    exact systemInv_step hinv hcs hstep

/-- No beacon listens on a required topic. -/
theorem receiveTopic_ne_required {id t : String} {qos : QoS}
    (h : (t, qos) ∈ requiredSubscriptions) : t ≠ receiveTopic id := by
  rintro rfl
  have hstrip : RustText.stripSuffix (receiveTopic id) "/rec" = some id :=
    RustText.stripSuffix_append id "/rec"
  rcases List.mem_cons.mp h with h | h
  · rw [(Prod.mk.inj h).1] at hstrip
    exact nomatch (show RustText.stripSuffix "registration" "/rec" = none by decide).symm.trans
      hstrip
  · rw [(Prod.mk.inj (List.mem_singleton.mp h)).1] at hstrip
    exact nomatch (show RustText.stripSuffix "key-bridge" "/rec" = none by decide).symm.trans hstrip

/-- A subscription under way is for a required topic, or for the listen topic of the channel being
    registered. -/
theorem calling_subscribe {s : State} {t : String} {qos : QoS}
    (h : s.calling = some (.subscribe t qos)) :
    (∃ c ∈ s.inFlight, c.topicType ≠ .broadcast ∧ t = c.topic.topic) ∨
      ∃ x ∈ s.startup, t = x.1 := by
  rw [State.calling] at h
  split at h
  · rename_i c now hreg
    left
    refine ⟨c, by rw [State.inFlight, hreg]; exact List.mem_cons_self, ?_⟩
    rw [subscribeRequest] at h
    split at h
    · exact nomatch h
    · rename_i htype
      exact ⟨htype, (Request.subscribe.inj (Option.some.inj h)).1.symm⟩
  · rename_i topic qos' rest _ hs
    right
    exact ⟨(topic, qos'), by rw [hs]; exact List.mem_cons_self,
      (Request.subscribe.inj (Option.some.inj h)).1.symm⟩
  · split at h <;> exact nomatch h

/-- **What is expected is not leaving.** -/
theorem not_leaving_of_expected {cs : List TopicChannel} {s : State} {t : String}
    (h : SystemInv cs s) (hcs : FromHandshakes (cs ++ s.inFlight)) (ht : s.Expected t) :
    ¬ s.Leaving t := by
  intro hleaving
  have hinv : ListenInv cs s.Leaving s.loop.registry := h.loop.drop fun _ _ _ hq => hq.toListenInv
  obtain ⟨id, he, hc, hnone⟩ := hinv.leaving t hleaving
  rcases ht with ht | ⟨id', ht⟩ | ⟨-, qos, ht⟩
  · obtain ⟨qos, hmem⟩ := h.required t ht
    exact receiveTopic_ne_required hmem he
  · have hid := receiveTopic_injective (he.symm.trans (hinv.listed id' t ht).1)
    rw [hid, ht] at hnone
    exact nomatch hnone
  · rcases calling_subscribe ht with ⟨c, hmem, htype, htopic⟩ | ⟨x, hx, htopic⟩
    · -- the channel is new, and the beacon that is leaving had its own
      obtain ⟨id', rfl | rfl⟩ := hcs.2 c (List.mem_append_right cs hmem)
      · have hid := receiveTopic_injective (he.symm.trans htopic)
        rw [hid] at hc
        exact (List.nodup_append.mp hcs.1).2.2 _ hc _ hmem rfl
      · exact htype rfl
    · have hmem : (t, x.2) ∈ requiredSubscriptions := htopic ▸ h.startup x hx
      exact receiveTopic_ne_required hmem he

-- ── The condition ────────────────────────────────────────────────────────────

/-- While there is a session, what is expected is subscribed or on its way. -/
def KnownOrCovered (s : State) : Prop :=
  ∀ subs, s.session = some subs → ∀ t, s.Expected t → t ∈ subs ∨ s.Covered t

/-- A step that only makes fewer topics expected, and only adds requests. -/
theorem KnownOrCovered.weaken {s s' : State} (h : KnownOrCovered s)
    (hsession : s'.session = s.session) (hexpected : ∀ t, s'.Expected t → s.Expected t)
    (hrequests : ∀ r ∈ s.requests, r ∈ s'.requests) : KnownOrCovered s' := by
  intro subs hs t ht
  rw [hsession] at hs
  rcases h subs hs t (hexpected t ht) with hmem | ⟨qos, hcov⟩
  · exact .inl hmem
  · exact .inr ⟨qos, hrequests _ hcov⟩

/-- The listen topics after an event of the message loop that registers nothing were there
    before. -/
theorem listen?_of_step {app : App} {s s' : LoopState} {e : HamletRegistry.Event}
    (he : ∀ c now answer, e ≠ .channel c now answer)
    (hstep : HamletRegistry.step app s e = some s') {id t : String}
    (ht : listen? s'.registry id = some t) : listen? s.registry id = some t := by
  cases hd : e.dropsSweep with
  | false =>
      rw [listen?, field?] at ht
      rcases record?_of_sweep hstep hd id with hnone | hsame
      · rw [hnone] at ht
        cases ht
      · rw [hsame] at ht
        exact ht
  | true =>
      cases e with
      | channel c now answer => exact absurd rfl (he c now answer)
      | message msg now =>
          rw [step_message hstep, listen?_onMessage] at ht
          exact ht
      | tick now stale => cases hd
      | unsubscribed answer => cases hd
      | topicsLocked => cases hd

/-- One step keeps the broker up to date, if a new session finds everything in the queue. -/
theorem knownOrCovered_step {app : App} {cs : List TopicChannel} {s s' : State} {e : Event}
    (hinv : SystemInv cs s) (hcs : FromHandshakes (cs ++ s.inFlight)) (h : KnownOrCovered s)
    (hC : CoveredAtConnAck s e) (hstep : step app s e = some s') : KnownOrCovered s' := by
  cases transition_of_step hstep with
  | connAck hs => exact fun subs _ t ht => .inr (hC rfl t ht)
  | connectionLost => exact fun subs hs => nomatch hs
  | transmit hs hr =>
      rename_i subs r rest
      rintro subs' hs' t ht
      obtain rfl : r.apply subs = subs' := Option.some.inj hs'
      have hstay := not_leaving_of_expected hinv hcs ht
      rw [State.Leaving, hr, not_or] at hstay
      rcases h subs hs t ht with hmem | ⟨qos, hcov⟩
      · left
        cases r with
        | subscribe topic qos => exact Finset.mem_insert_of_mem hmem
        | unsubscribe topic =>
            refine Finset.mem_erase.mpr ⟨?_, hmem⟩
            rintro rfl
            exact hstay.1 List.mem_cons_self
        | publish topic => exact hmem
      · rw [hr] at hcov
        rcases List.mem_cons.mp hcov with heq | hcov
        · exact .inl (heq ▸ Finset.mem_insert_self t subs)
        · exact .inr ⟨qos, hcov⟩
  | orphan ho => exact h.weaken rfl (fun _ ht => ht) fun r hr => List.mem_append_left _ hr
  | issue hcall =>
      intro subs hs t ht
      rcases ht with ht | ht | ⟨-, qos, ht⟩
      · exact (h subs hs t (.inl ht)).imp_right fun ⟨q, hq⟩ => ⟨q, List.mem_append_left _ hq⟩
      · exact (h subs hs t (.inr (.inl ht))).imp_right fun ⟨q, hq⟩ => ⟨q, List.mem_append_left _ hq⟩
      · -- the topic of the call is in the queue now
        have ht' : s.calling = some (.subscribe t qos) := ht
        obtain rfl := Option.some.inj (hcall.symm.trans ht')
        exact .inr ⟨qos, List.mem_append_right _ List.mem_cons_self⟩
  | broadcast topic => exact h.weaken rfl (fun _ ht => ht) fun r hr => List.mem_append_left _ hr
  | startupOk hs hissued hcall =>
      refine h.weaken rfl (fun t ht => ?_) fun r hr => hr
      rcases ht with ht | ht | ⟨hi, -⟩
      · rcases List.mem_append.mp ht with ht | ht
        · exact .inl ht
        · rw [List.mem_singleton.mp ht]
          exact .inr (.inr ⟨hissued, _, hcall⟩)
      · exact .inr (.inl ht)
      · exact Bool.noConfusion hi
  | startupError e =>
      refine h.weaken rfl (fun t ht => ?_) fun r hr => hr
      rcases ht with ht | ht | ⟨hi, -⟩
      · exact .inl ht
      · exact .inr (.inl ht)
      · exact Bool.noConfusion hi
  | startupSkipped =>
      refine h.weaken rfl (fun t ht => ?_) fun r hr => hr
      rcases ht with ht | ht | ⟨hi, -⟩
      · exact .inl ht
      · exact .inr (.inl ht)
      · exact Bool.noConfusion hi
  | receive c now sent hr =>
      refine h.weaken rfl (fun t ht => ?_) fun r hr => hr
      rcases ht with ht | ht | ⟨hi, -⟩
      · exact .inl ht
      · exact .inr (.inl ht)
      · exact Bool.noConfusion hi
  | registered hr ha hl =>
      rename_i c now answer loop
      refine h.weaken rfl (fun t ht => ?_) fun r hr => hr
      rcases ht with ht | ⟨id, ht⟩ | ⟨hi, -⟩
      · exact .inl ht
      · -- a listen topic that appears now is the one of the call that was answered
        have ht' : listen? loop.registry id = some t := ht
        rw [step_channel hl] at ht'
        have hmem : c ∈ cs ++ s.inFlight := by
          rw [State.inFlight, hr]
          exact List.mem_append_right cs List.mem_cons_self
        obtain ⟨id', rfl | rfl⟩ := hcs.2 c hmem
        · rw [(listen?_registerChannel s.loop.registry id' now answer id).2] at ht'
          split at ht'
          · rename_i hok
            obtain rfl := hok.2
            obtain rfl := Option.some.inj ht'
            have hcall : s.calling = some (.subscribe (receiveTopic id') .atLeastOnce) := by
              rw [State.calling, hr]
              rfl
            have hissued : s.issued = true := by simpa [State.answers, hcall] using ha
            exact .inr (.inr ⟨hissued, _, hcall⟩)
          · exact .inr (.inl ⟨id, ht'⟩)
        · rw [(listen?_registerChannel s.loop.registry id' now answer id).1] at ht'
          exact .inr (.inl ⟨id, ht'⟩)
      · exact Bool.noConfusion hi
  | loop he hr hl =>
      refine h.weaken rfl (fun t ht => ?_) fun r hr => hr
      rcases ht with ht | ⟨id, ht⟩ | ⟨hi, -⟩
      · exact .inl ht
      · exact .inr (.inl ⟨id, listen?_of_step he hl ht⟩)
      · exact Bool.noConfusion hi

/-- With nothing left in the queue, what is expected is subscribed. -/
theorem subscribed_of_knownOrCovered {s : State} (h : KnownOrCovered s) : Subscribed s := by
  intro subs hs hnil
  have hmem : ∀ t, s.Expected t → t ∈ subs := by
    intro t ht
    rcases h subs hs t ht with hmem | ⟨qos, hcov⟩
    · exact hmem
    · rw [hnil] at hcov
      exact nomatch hcov
  refine ⟨fun t ht => hmem t (.inl ht), fun id r hr hne => hmem _ (.inr (.inl ⟨id, ?_⟩))⟩
  exact field?_eq_some.mpr ⟨r, hr, if_neg hne⟩

/-- **The broker knows what the node listens to, in every state of a run** in which every new
    session begins with the subscriptions of all expected topics in the queue. -/
theorem subscribed_throughout (app : App) (es : List Event) (hcs : FromHandshakes (received es))
    (hC : EventRun.EachStep (step app) (.init app) es CoveredAtConnAck) :
    EventRun.Throughout (step app) (.init app) es Subscribed := by
  have h := EventRun.throughout_of_eachStep (J := KnownOrCovered)
    (I := fun p s => ∃ cs, FromHandshakes (cs ++ s.inFlight) ∧ SystemInv cs s) hC ?_ ?_ ?_
  · exact fun p q hes s hs => subscribed_of_knownOrCovered (h p q hes s hs)
  · intro p q s hpq hs
    rw [hpq, received_append] at hcs
    obtain ⟨cs, hrec, hinv⟩ := systemInv_run app p s hs hcs.left
    exact ⟨cs, hrec ▸ hcs.left, hinv⟩
  · exact fun subs hs => nomatch hs
  · rintro p e s s' ⟨cs, hcs', hinv⟩ - h hCs hstep
    exact knownOrCovered_step hinv hcs' h hCs hstep

/-- The start-up, on the first connection. -/
def startUp : List Event :=
  [.connAck, .commandTask, .startup (.ok ()), .commandTask, .startup (.ok ()), .transmit, .transmit]

/-- After the start-up a beacon is registered. -/
def oneBeacon : List Event :=
  startUp ++ [.receive (listenChannel "b1") 0 false, .commandTask, .registered (.ok ()), .transmit]

/-- Only the first event of the run is a ConnAck, and then nothing is expected. -/
theorem oneBeacon_covered :
    EventRun.EachStep (step plainApp) (.init plainApp) oneBeacon CoveredAtConnAck := by
  refine EventRun.eachStep_cons ?_ fun t _ => ?_
  · rintro - t (ht | ⟨id, ht⟩ | ⟨hi, -⟩)
    · exact nomatch ht
    · obtain ⟨r, hr, -⟩ := field?_eq_some.mp ht
      exact nomatch hr.symm.trans (BeaconRegistry.record?_new none id)
    · exact Bool.noConfusion hi
  · intro p e q hes t' _ he
    have hmem : e ∈ oneBeacon.tail := by
      rw [show oneBeacon.tail = p ++ e :: q from hes]
      exact List.mem_append_right p List.mem_cons_self
    rw [he] at hmem
    simp [oneBeacon, startUp] at hmem

theorem oneBeacon_fromHandshakes : FromHandshakes (received oneBeacon) := by
  refine ⟨by decide, ?_⟩
  intro c hc
  have hc' : c = listenChannel "b1" := by simpa [oneBeacon, startUp, received] using hc
  exact ⟨"b1", .inl hc'⟩

/-- The theorem at a run with one connection: the broker has all three topics at its end. -/
theorem subscribed_throughout_oneBeacon :
    ∃ s, systemRun plainApp oneBeacon = some s ∧
      s.session = some {"registration", "key-bridge", "b1/rec"} ∧ Subscribed s := by
  refine ⟨_, rfl, by decide, ?_⟩
  exact subscribed_throughout plainApp oneBeacon oneBeacon_fromHandshakes oneBeacon_covered
    oneBeacon [] (List.append_nil _).symm _ rfl

/-- The connection is lost and comes back. -/
def reconnect : List Event := startUp ++ [.connectionLost, .connAck]

/-- **A reconnect loses every subscription.** The client is connected, nothing is left to send, and
    the broker has none of the required topics. -/
theorem reconnect_loses_subscriptions :
    FromHandshakes (received reconnect) ∧
      ∃ s, systemRun plainApp reconnect = some s ∧ ¬ Subscribed s := by
  refine ⟨⟨by decide, fun c hc => nomatch hc⟩, _, rfl, ?_⟩
  intro h
  have hmem := (h ∅ rfl rfl).1 "registration" (by decide)
  exact absurd hmem (Finset.notMem_empty _)

-- ── The condition is needed ──────────────────────────────────────────────────

/-- Sending the whole queue. -/
theorem run_transmit (app : App) (s : State) (rs : List Request) (subs : Finset String) :
    EventRun.run (step app) { s with session := some subs, requests := rs }
        (List.replicate rs.length .transmit) =
      some { s with session := some (rs.foldl Request.apply subs), requests := [] } := by
  induction rs generalizing subs with
  | nil => rfl
  | cons r rs ih => exact ih (r.apply subs)

/-- A topic that no request subscribes to does not appear. -/
theorem notMem_foldl_apply {t : String} (rs : List Request) (subs : Finset String) (ht : t ∉ subs)
    (hrs : ∀ qos, .subscribe t qos ∉ rs) : t ∉ rs.foldl Request.apply subs := by
  induction rs generalizing subs with
  | nil => exact ht
  | cons r rs ih =>
      refine ih (r.apply subs) ?_ fun qos h => hrs qos (List.mem_cons_of_mem r h)
      cases r with
      | subscribe topic qos =>
          intro hmem
          rcases Finset.mem_insert.mp hmem with rfl | hmem
          · exact hrs qos List.mem_cons_self
          · exact ht hmem
      | unsubscribe topic => exact fun hmem => ht (Finset.mem_of_mem_erase hmem)
      | publish topic => exact ht

/-- **A session that begins without a wanted topic stays without it**: once the queue is sent, the
    broker's set is wrong. -/
theorem not_subscribed_of_uncovered {app : App} {s s' : State} {t : String}
    (hstep : step app s .connAck = some s')
    (hwanted : t ∈ s.required ∨ ∃ id, listen? s.loop.registry id = some t) (hno : ¬ s.Covered t) :
    ∃ s'', EventRun.run (step app) s' (List.replicate s.requests.length .transmit) = some s'' ∧
      ¬ Subscribed s'' := by
  cases transition_of_step hstep with
  | connAck hs =>
      refine ⟨_, run_transmit app { s with connected := true } s.requests ∅, ?_⟩
      have ht : t ∉ s.requests.foldl Request.apply ∅ :=
        notMem_foldl_apply s.requests ∅ (Finset.notMem_empty t) fun qos h => hno ⟨qos, h⟩
      intro hsub
      obtain ⟨hreq, hlisten⟩ := hsub _ rfl rfl
      rcases hwanted with hmem | ⟨id, hid⟩
      · exact ht (hreq t hmem)
      · obtain ⟨r, hr, hrt⟩ := field?_eq_some.mp hid
        rw [listenOf] at hrt
        split at hrt
        · exact nomatch hrt
        · rename_i hne
          rw [← Option.some.inj hrt] at ht
          exact ht (hlisten id r hr hne)

end HamletSubscription
