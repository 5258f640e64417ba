import Hamlet.Lib.EventRunProofs
import Hamlet.CloudGatewayProofs
import Mathlib.Data.Finmap

/-!
# The beacon registry and the message loop that owns it

`run_beacon_message_loop` is one task around a `select!` of three branches: a topic channel from
a completed handshake, the timeout sweep, and an inbound MQTT message. The sweep is the delicate
one: `check_timeouts` is a future that `select!` DROPS whenever another branch completes first,
and it awaits twice for every stale beacon AFTER it has taken the record out of the map.

The model keeps that future. `SweepFuture` says at which await it stands and which record it
holds; every await is an event of its own (`tick`, `unsubscribed`, `topicsLocked`), and the
events of the other two branches (`channel`, `message`) drop whatever future there is. A state
with the sweep at `waitingTick` is a state between two iterations. The handlers of the two other
branches run to completion, so they are one step each.

Proofs do not unfold the sweep: `Holds I Q` describes a loop invariant by what holds between
records (`I`) and while a record is being deregistered (`Q`), and `Holds.step` derives its
preservation from one obligation per operation of the registry.
-/

namespace HamletRegistry

open RustText HamletCloudGateway

/-- `std::time::Instant`, in nanoseconds. -/
abbrev Instant := ℕ

/-- `BEACON_TIMEOUT`: 120 seconds of silence. -/
def beaconTimeout : ℕ := 120 * 10 ^ 9

-- ── Topics and channels ──────────────────────────────────────────────────────

inductive QoS where
  | atMostOnce
  | atLeastOnce
  | exactlyOnce
  deriving DecidableEq, Repr

/-- `qos_from_u8`. -/
def qosFromU8 : ℕ → QoS
  | 0 => .atMostOnce
  | 2 => .exactlyOnce
  | _ => .atLeastOnce

structure MqttTopicConfig where
  topic : String
  qos   : ℕ
  deriving DecidableEq, Repr

inductive TopicType where
  | listen
  | broadcast
  | hybrid
  deriving DecidableEq, Repr

structure TopicChannel where
  beaconId  : String
  topic     : MqttTopicConfig
  topicType : TopicType
  deriving DecidableEq, Repr

/-- `"{id}/rec"`. -/
def receiveTopic (id : String) : String := id ++ "/rec"

/-- `"{id}/cast"`. -/
def broadcastTopic (id : String) : String := id ++ "/cast"

/-- The listen channel that `handle_device_init` builds for a beacon id. -/
def listenChannel (id : String) : TopicChannel where
  beaconId  := id
  topic     := { topic := receiveTopic id, qos := 1 }
  topicType := .listen

/-- The broadcast channel that `handle_device_init` builds for a beacon id. -/
def broadcastChannel (id : String) : TopicChannel where
  beaconId  := id
  topic     := { topic := broadcastTopic id, qos := 1 }
  topicType := .broadcast

theorem broadcastTopic_injective : Function.Injective broadcastTopic :=
  append_right_injective "/cast"

theorem receiveTopic_injective : Function.Injective receiveTopic :=
  append_right_injective "/rec"

theorem receiveTopic_ne_empty (id : String) : receiveTopic id ≠ "" :=
  append_ne_empty (by decide)

theorem broadcastTopic_ne_empty (id : String) : broadcastTopic id ≠ "" :=
  append_ne_empty (by decide)

-- ── The registry ─────────────────────────────────────────────────────────────

structure BeaconRecord where
  listenTopic       : String
  broadcastTopic    : String
  lastSeen          : Instant
  gatewayUrl        : Option String
  gatewayShutdownTx : Option ShutdownTx
  deriving DecidableEq, Repr

/-- The record `register_channel` creates for an unknown beacon. -/
def BeaconRecord.fresh (now : Instant) : BeaconRecord where
  listenTopic       := ""
  broadcastTopic    := ""
  lastSeen          := now
  gatewayUrl        := none
  gatewayShutdownTx := none

/-- `BeaconRegistry`, with the contents of the shared `broadcast_topics` list; the registry is
    its only writer. -/
structure BeaconRegistry where
  records         : Finmap fun _ : String => BeaconRecord
  knownGateways   : Finset String
  broadcastTopics : List String

namespace BeaconRegistry

/-- `BeaconRegistry::new`: the own gateway URL is known from the start. -/
def new (ownGatewayUrl : Option String) : BeaconRegistry where
  records         := ∅
  knownGateways   := ownGatewayUrl.toFinset
  broadcastTopics := []

/-- `records.get`. -/
def record? (reg : BeaconRegistry) (id : String) : Option BeaconRecord := reg.records.lookup id

/-- `records.entry(id).or_insert_with(..)`. -/
def ensureRecord (reg : BeaconRegistry) (id : String) (now : Instant) : BeaconRegistry :=
  match reg.record? id with
  | some _ => reg
  | none => { reg with records := reg.records.insert id (.fresh now) }

/-- `if let Some(record) = records.get_mut(id)`. -/
def modifyRecord (reg : BeaconRegistry) (id : String) (f : BeaconRecord → BeaconRecord) :
    BeaconRegistry :=
  match reg.record? id with
  | some r => { reg with records := reg.records.insert id (f r) }
  | none => reg

/-- `broadcast_topics.write().await.push(topic)`. -/
def pushTopic (reg : BeaconRegistry) (topic : String) : BeaconRegistry :=
  { reg with broadcastTopics := reg.broadcastTopics ++ [topic] }

/-- `register_channel`; `subscribed` is the answer of `mqtt_handle.subscribe`, which only the
    listen and hybrid branches call. -/
def registerChannel (reg : BeaconRegistry) (c : TopicChannel) (now : Instant)
    (subscribed : Except String Unit) : BeaconRegistry :=
  let reg := reg.ensureRecord c.beaconId now
  match c.topicType with
  | .listen =>
      match subscribed with
      | .error _ => reg
      | .ok () => reg.modifyRecord c.beaconId fun r => { r with listenTopic := c.topic.topic }
  | .broadcast =>
      (reg.pushTopic c.topic.topic).modifyRecord c.beaconId
        fun r => { r with broadcastTopic := c.topic.topic }
  | .hybrid =>
      match subscribed with
      | .error _ => reg
      | .ok () =>
          (reg.pushTopic c.topic.topic).modifyRecord c.beaconId
            fun r => { r with listenTopic := c.topic.topic, broadcastTopic := c.topic.topic }

/-- `update_last_seen`. -/
def updateLastSeen (reg : BeaconRegistry) (id : String) (now : Instant) : BeaconRegistry :=
  reg.modifyRecord id fun r => { r with lastSeen := now }

/-- `is_gateway_known`. -/
def isGatewayKnown (reg : BeaconRegistry) (gwUrl : String) : Bool := gwUrl ∈ reg.knownGateways

/-- `insert_gateway`. -/
def insertGateway (reg : BeaconRegistry) (gwUrl : String) : BeaconRegistry :=
  { reg with knownGateways := insert gwUrl reg.knownGateways }

/-- `associate_gateway`: no-op for an unknown beacon, overwrites otherwise. -/
def associateGateway (reg : BeaconRegistry) (id gwUrl : String) (shutdownTx : ShutdownTx) :
    BeaconRegistry :=
  reg.modifyRecord id fun r =>
    { r with gatewayUrl := some gwUrl, gatewayShutdownTx := some shutdownTx }

-- ── The timeout sweep ────────────────────────────────────────────────────────

/-- The beacons silent for more than `BEACON_TIMEOUT` (`duration_since` saturates at zero). -/
def staleIds (reg : BeaconRegistry) (now : Instant) : Finset String :=
  reg.records.keys.filter fun id =>
    (reg.record? id).any fun r => decide (beaconTimeout < now - r.lastSeen)

/-- `records.remove(id)`. -/
def removeRecord (reg : BeaconRegistry) (id : String) : BeaconRegistry :=
  { reg with records := reg.records.erase id }

/-- `broadcast_topics.write().await.retain(|t| t != topic)`. -/
def retainTopics (reg : BeaconRegistry) (topic : String) : BeaconRegistry :=
  { reg with broadcastTopics := reg.broadcastTopics.filter (· ≠ topic) }

/-- `known_gateways.remove(gw_url)` for the URL of a removed record. -/
def evictGateway (reg : BeaconRegistry) (record : BeaconRecord) : BeaconRegistry :=
  match record.gatewayUrl with
  | some gwUrl => { reg with knownGateways := reg.knownGateways.erase gwUrl }
  | none => reg

end BeaconRegistry

/-- Where the `check_timeouts` future stands: which await it is suspended at, the record it has
    taken out, and the stale ids still to visit. -/
inductive SweepFuture where
  | waitingTick
  | unsubscribing (id : String) (record : BeaconRecord) (rest : List String)
  | lockingTopics (id : String) (record : BeaconRecord) (rest : List String)
  deriving DecidableEq, Repr

/-- The `for beacon_id in stale` loop up to its next await. Reaching the end finishes the
    future; the next iteration of the message loop starts a new one. -/
def sweepNext (reg : BeaconRegistry) : List String → BeaconRegistry × SweepFuture
  | [] => (reg, .waitingTick)
  | id :: rest =>
      match reg.record? id with
      | none => sweepNext reg rest
      | some record =>
          if record.listenTopic ≠ "" then (reg.removeRecord id, .unsubscribing id record rest)
          else if record.broadcastTopic ≠ "" then
            (reg.removeRecord id, .lockingTopics id record rest)
          else sweepNext ((reg.removeRecord id).evictGateway record) rest

/-- The sweep after its `unsubscribe` was answered; the answer is only logged. -/
def afterUnsubscribe (reg : BeaconRegistry) (id : String) (record : BeaconRecord)
    (rest : List String) : BeaconRegistry × SweepFuture :=
  if record.broadcastTopic ≠ "" then (reg, .lockingTopics id record rest)
  else sweepNext (reg.evictGateway record) rest

/-- The sweep once it holds the write lock of the topic list. -/
def afterLock (reg : BeaconRegistry) (record : BeaconRecord) (rest : List String) :
    BeaconRegistry × SweepFuture :=
  sweepNext ((reg.retainTopics record.broadcastTopic).evictGateway record) rest

-- ── The message loop ─────────────────────────────────────────────────────────

/-- What `serde_json::from_slice` makes of a payload: a value, or the text it falls back to. -/
inductive Payload where
  | json (value : JsonValue)
  | raw (text : String)

/-- `beacon_payload`. -/
def Payload.value : Payload → JsonValue
  | .json v => v
  | .raw text => .string text

structure MqttMessage where
  topic   : String
  payload : Payload

/-- `beacon_gateway_url`: the URL a payload advertises. -/
def advertisedGateway (payload : JsonValue) : Option String :=
  (payload.get? "gateway_url").bind JsonValue.asStr?

/-- The settings of the node the loop reads. -/
structure App where
  serverUrl     : String
  ownGatewayUrl : Option String

/-- The state of the message loop; `connections` lists every `connect_to_gateway` call, oldest
    first, and a `ShutdownTx` points into it. -/
structure LoopState where
  registry    : BeaconRegistry
  sweep       : SweepFuture
  connections : List Connection

/-- The loop before its first iteration. -/
def LoopState.init (app : App) : LoopState where
  registry    := .new app.ownGatewayUrl
  sweep       := .waitingTick
  connections := []

/-- The beacon a topic belongs to: topics follow the pattern `"{beacon_id}/rec"`. -/
def senderOf (topic : String) : Option String := stripSuffix topic "/rec"

/-- Refresh `last_seen` of the beacon that sent a message. -/
def refreshSender (reg : BeaconRegistry) (topic : String) (now : Instant) : BeaconRegistry :=
  match senderOf topic with
  | some id => reg.updateLastSeen id now
  | none => reg

/-- Store the new connection with the beacon that triggered it, if the topic names one. -/
def associateSender (reg : BeaconRegistry) (topic gwUrl : String) (tx : ShutdownTx) :
    BeaconRegistry :=
  match senderOf topic with
  | some id => reg.associateGateway id gwUrl tx
  | none => reg

/-- The body of the loop for an inbound message. -/
def onMessage (app : App) (reg : BeaconRegistry) (conns : List Connection) (msg : MqttMessage)
    (now : Instant) : BeaconRegistry × List Connection :=
  let reg := refreshSender reg msg.topic now
  match advertisedGateway msg.payload.value with
  | none => (reg, conns)
  | some gwUrl =>
      if reg.isGatewayKnown gwUrl then (reg, conns)
      else
        let conn := (connectToGateway app.serverUrl gwUrl).send
          (.beaconRegistration app.serverUrl msg.payload.value)
        (associateSender (reg.insertGateway gwUrl) msg.topic gwUrl ⟨conns.length⟩, conns ++ [conn])

/-- One event of the loop: a completed branch of `select!`, or the sweep getting past an
    await. -/
inductive Event where
  | channel (c : TopicChannel) (now : Instant) (subscribed : Except String Unit)
  | tick (now : Instant) (stale : List String)
  | unsubscribed (answer : Except String Unit)
  | topicsLocked
  | message (msg : MqttMessage) (now : Instant)

/-- The loop's reaction. `tick` carries the order in which the hash map yields the stale ids. -/
def step (app : App) (s : LoopState) : Event → Option LoopState
  | .channel c now subscribed =>
      some { s with registry := s.registry.registerChannel c now subscribed, sweep := .waitingTick }
  | .tick now stale =>
      match s.sweep with
      | .waitingTick =>
          if stale.Nodup ∧ stale.toFinset = s.registry.staleIds now then
            let (reg, fut) := sweepNext s.registry stale
            some { s with registry := reg, sweep := fut }
          else none
      | _ => none
  | .unsubscribed _ =>
      match s.sweep with
      | .unsubscribing id record rest =>
          let (reg, fut) := afterUnsubscribe s.registry id record rest
          some { s with registry := reg, sweep := fut }
      | _ => none
  | .topicsLocked =>
      match s.sweep with
      | .lockingTopics _ record rest =>
          let (reg, fut) := afterLock s.registry record rest
          some { s with registry := reg, sweep := fut }
      | _ => none
  | .message msg now =>
      let (reg, conns) := onMessage app s.registry s.connections msg now
      some { registry := reg, sweep := .waitingTick, connections := conns }

/-- A run of the message loop from its start. -/
abbrev loopRun (app : App) (es : List Event) : Option LoopState :=
  EventRun.run (step app) (.init app) es

/-- Between two iterations there is no sweep under way. -/
def LoopState.BetweenIterations (s : LoopState) : Prop := s.sweep = .waitingTick

instance (s : LoopState) : Decidable s.BetweenIterations :=
  inferInstanceAs (Decidable (s.sweep = .waitingTick))

/-- The record a sweep has taken out of the map and not finished with. -/
def SweepFuture.pending : SweepFuture → Option BeaconRecord
  | .waitingTick => none
  | .unsubscribing _ record _ => some record
  | .lockingTopics _ record _ => some record

/-- The event completes another branch of `select!`, so that the sweep is dropped. -/
def Event.dropsSweep : Event → Bool
  | .channel .. => true
  | .message .. => true
  | _ => false

/-- A channel is registered after the sweep was dropped. -/
theorem step_channel {app : App} {s s' : LoopState} {c : TopicChannel} {now : Instant}
    {subscribed : Except String Unit} (h : step app s (.channel c now subscribed) = some s') :
    s' = { registry := s.registry.registerChannel c now subscribed, sweep := .waitingTick,
           connections := s.connections } :=
  (Option.some.inj h).symm

/-- A message is handled after the sweep was dropped. -/
theorem step_message {app : App} {s s' : LoopState} {msg : MqttMessage} {now : Instant}
    (h : step app s (.message msg now) = some s') :
    s' = { registry := (onMessage app s.registry s.connections msg now).1, sweep := .waitingTick,
           connections := (onMessage app s.registry s.connections msg now).2 } :=
  (Option.some.inj h).symm

/-- The sweep goes on from the await it is suspended at. -/
theorem step_sweep {app : App} {s s' : LoopState} {e : Event} (h : step app s e = some s')
    (he : e.dropsSweep = false) :
    s'.connections = s.connections ∧
      ((s.sweep = .waitingTick ∧ ∃ stale, (s'.registry, s'.sweep) = sweepNext s.registry stale) ∨
        (∃ id r rest, s.sweep = .unsubscribing id r rest ∧
          (s'.registry, s'.sweep) = afterUnsubscribe s.registry id r rest) ∨
        ∃ id r rest, s.sweep = .lockingTopics id r rest ∧
          (s'.registry, s'.sweep) = afterLock s.registry r rest) := by
  obtain ⟨reg, fut, conns⟩ := s
  cases e with
  | channel c now subscribed => exact Bool.noConfusion he
  | message msg now => exact Bool.noConfusion he
  | tick now stale =>
      cases fut with
      | waitingTick =>
          simp only [step] at h
          split at h
          · obtain rfl := Option.some.inj h
            exact ⟨rfl, .inl ⟨rfl, stale, rfl⟩⟩
          · exact nomatch h
      | unsubscribing id r rest => exact nomatch h
      | lockingTopics id r rest => exact nomatch h
  | unsubscribed answer =>
      cases fut with
      | unsubscribing id r rest =>
          obtain rfl := Option.some.inj h
          exact ⟨rfl, .inr (.inl ⟨id, r, rest, rfl, rfl⟩)⟩
      | waitingTick => exact nomatch h
      | lockingTopics id r rest => exact nomatch h
  | topicsLocked =>
      cases fut with
      | lockingTopics id r rest =>
          obtain rfl := Option.some.inj h
          exact ⟨rfl, .inr (.inr ⟨id, r, rest, rfl, rfl⟩)⟩
      | waitingTick => exact nomatch h
      | unsubscribing id r rest => exact nomatch h

/-- The sweep makes no connection. -/
theorem connections_of_sweep {app : App} {s s' : LoopState} {e : Event}
    (h : step app s e = some s') (he : e.dropsSweep = false) : s'.connections = s.connections :=
  (step_sweep h he).1

-- ── What the operations do to the map ────────────────────────────────────────

namespace BeaconRegistry

@[simp] theorem record?_new (own : Option String) (id : String) :
    (new own).record? id = none := Finmap.lookup_empty id

/-- A key/value insertion seen through `record?`. -/
theorem lookup_insert' (m : Finmap fun _ : String => BeaconRecord) (id id' : String)
    (r : BeaconRecord) :
    (m.insert id r).lookup id' = if id' = id then some r else m.lookup id' := by
  by_cases h : id' = id
  · subst h; rw [if_pos rfl, Finmap.lookup_insert]
  · rw [if_neg h, Finmap.lookup_insert_of_ne _ h]

theorem record?_ensureRecord (reg : BeaconRegistry) (id id' : String) (now : Instant) :
    (reg.ensureRecord id now).record? id' =
      if id' = id then some ((reg.record? id).getD (.fresh now)) else reg.record? id' := by
  rw [ensureRecord]
  cases h : reg.record? id with
  | none => exact lookup_insert' reg.records id id' _
  | some r =>
      by_cases hid : id' = id
      · subst hid; rw [if_pos rfl]; exact h
      · rw [if_neg hid]

theorem record?_modifyRecord (reg : BeaconRegistry) (id id' : String)
    (f : BeaconRecord → BeaconRecord) :
    (reg.modifyRecord id f).record? id' =
      if id' = id then (reg.record? id).map f else reg.record? id' := by
  rw [modifyRecord]
  cases h : reg.record? id with
  | none =>
      by_cases hid : id' = id
      · subst hid; rw [if_pos rfl]; exact h
      · rw [if_neg hid]
  | some r => exact lookup_insert' reg.records id id' _

theorem record?_removeRecord (reg : BeaconRegistry) (id id' : String) :
    (reg.removeRecord id).record? id' = if id' = id then none else reg.record? id' := by
  by_cases h : id' = id
  · subst h; rw [if_pos rfl]; exact Finmap.lookup_erase _ _
  · rw [if_neg h]; exact Finmap.lookup_erase_ne h

@[simp] theorem record?_pushTopic (reg : BeaconRegistry) (t id : String) :
    (reg.pushTopic t).record? id = reg.record? id := rfl

@[simp] theorem record?_retainTopics (reg : BeaconRegistry) (t id : String) :
    (reg.retainTopics t).record? id = reg.record? id := rfl

@[simp] theorem record?_insertGateway (reg : BeaconRegistry) (u id : String) :
    (reg.insertGateway u).record? id = reg.record? id := rfl

@[simp] theorem record?_evictGateway (reg : BeaconRegistry) (r : BeaconRecord) (id : String) :
    (reg.evictGateway r).record? id = reg.record? id := by
  rw [evictGateway]; cases r.gatewayUrl <;> rfl

@[simp] theorem broadcastTopics_evictGateway (reg : BeaconRegistry) (r : BeaconRecord) :
    (reg.evictGateway r).broadcastTopics = reg.broadcastTopics := by
  rw [evictGateway]; cases r.gatewayUrl <;> rfl

@[simp] theorem broadcastTopics_ensureRecord (reg : BeaconRegistry) (id : String)
    (now : Instant) : (reg.ensureRecord id now).broadcastTopics = reg.broadcastTopics := by
  rw [ensureRecord]; cases reg.record? id <;> rfl

@[simp] theorem broadcastTopics_modifyRecord (reg : BeaconRegistry) (id : String)
    (f : BeaconRecord → BeaconRecord) :
    (reg.modifyRecord id f).broadcastTopics = reg.broadcastTopics := by
  rw [modifyRecord]; cases reg.record? id <;> rfl

@[simp] theorem knownGateways_ensureRecord (reg : BeaconRegistry) (id : String)
    (now : Instant) : (reg.ensureRecord id now).knownGateways = reg.knownGateways := by
  rw [ensureRecord]; cases reg.record? id <;> rfl

@[simp] theorem knownGateways_modifyRecord (reg : BeaconRegistry) (id : String)
    (f : BeaconRecord → BeaconRecord) :
    (reg.modifyRecord id f).knownGateways = reg.knownGateways := by
  rw [modifyRecord]; cases reg.record? id <;> rfl

/-- All that is left to do for a removed record: its topic, then its gateway URL. -/
def release (reg : BeaconRegistry) (record : BeaconRecord) : BeaconRegistry :=
  if record.broadcastTopic ≠ "" then
    (reg.retainTopics record.broadcastTopic).evictGateway record
  else reg.evictGateway record

@[simp] theorem record?_release (reg : BeaconRegistry) (r : BeaconRecord) (id : String) :
    (reg.release r).record? id = reg.record? id := by
  rw [release]; split <;> simp

end BeaconRegistry

/-- Up to its next await, a sweep takes records out, and changes none. -/
theorem record?_sweepNext (ids : List String) (reg : BeaconRegistry) (b : String) :
    (sweepNext reg ids).1.record? b = none ∨ (sweepNext reg ids).1.record? b = reg.record? b := by
  have hremove : ∀ (reg : BeaconRegistry) (id : String),
      (reg.removeRecord id).record? b = none ∨ (reg.removeRecord id).record? b = reg.record? b := by
    intro reg id
    rw [BeaconRegistry.record?_removeRecord]
    split
    · exact .inl rfl
    · exact .inr rfl
  induction ids generalizing reg with
  | nil => exact .inr rfl
  | cons id rest ih =>
      rw [sweepNext]
      cases reg.record? id with
      | none => exact ih reg
      | some r =>
          simp only []
          split
          · exact hremove reg id
          · split
            · exact hremove reg id
            · rcases ih ((reg.removeRecord id).evictGateway r) with h | h
              · exact .inl h
              · rw [h, BeaconRegistry.record?_evictGateway]
                exact hremove reg id

/-- Every event that lets the sweep continue takes records out, and changes none. -/
theorem record?_of_sweep {app : App} {s s' : LoopState} {e : Event}
    (h : step app s e = some s') (he : e.dropsSweep = false) (b : String) :
    s'.registry.record? b = none ∨ s'.registry.record? b = s.registry.record? b := by
  obtain ⟨-, hsweep⟩ := step_sweep h he
  rcases hsweep with ⟨-, stale, heq⟩ | ⟨id, r, rest, -, heq⟩ | ⟨id, r, rest, -, heq⟩
  · rw [show s'.registry = (sweepNext s.registry stale).1 from congrArg Prod.fst heq]
    exact record?_sweepNext stale s.registry b
  · rw [show s'.registry = (afterUnsubscribe s.registry id r rest).1 from congrArg Prod.fst heq,
      afterUnsubscribe]
    split
    · exact .inr rfl
    · rw [← BeaconRegistry.record?_evictGateway s.registry r b]
      exact record?_sweepNext rest _ b
  · have hsame : ((s.registry.retainTopics r.broadcastTopic).evictGateway r).record? b =
        s.registry.record? b := by simp
    rw [show s'.registry = (afterLock s.registry r rest).1 from congrArg Prod.fst heq, ← hsame]
    exact record?_sweepNext rest _ b

-- ── Fields of the records ────────────────────────────────────────────────────

/-- An optional field of a registered beacon. -/
def field? {β : Type} (g : BeaconRecord → Option β) (reg : BeaconRegistry) (id : String) :
    Option β :=
  (reg.record? id).bind g

section Field

variable {β : Type} {g : BeaconRecord → Option β}

theorem field?_eq_some {reg : BeaconRegistry} {id : String} {b : β} :
    field? g reg id = some b ↔ ∃ r, reg.record? id = some r ∧ g r = some b :=
  Option.bind_eq_some_iff

theorem field?_modifyRecord (reg : BeaconRegistry) {id : String}
    {f : BeaconRecord → BeaconRecord} (hf : ∀ r, g (f r) = g r) (id' : String) :
    field? g (reg.modifyRecord id f) id' = field? g reg id' := by
  rw [field?, field?, BeaconRegistry.record?_modifyRecord]
  by_cases h : id' = id
  · rw [if_pos h, h]
    cases reg.record? id with
    | none => rfl
    | some r => exact hf r
  · rw [if_neg h]

theorem field?_ensureRecord (reg : BeaconRegistry) (id : String) (now : Instant)
    (hfresh : g (.fresh now) = none) (id' : String) :
    field? g (reg.ensureRecord id now) id' = field? g reg id' := by
  rw [field?, field?, BeaconRegistry.record?_ensureRecord]
  by_cases h : id' = id
  · rw [if_pos h, h]
    cases reg.record? id with
    | none => exact hfresh
    | some r => rfl
  · rw [if_neg h]

theorem field?_removeRecord (reg : BeaconRegistry) (id id' : String) :
    field? g (reg.removeRecord id) id' = if id' = id then none else field? g reg id' := by
  rw [field?, BeaconRegistry.record?_removeRecord]
  by_cases h : id' = id
  · rw [if_pos h, if_pos h]; rfl
  · rw [if_neg h, if_neg h, field?]

theorem field?_release (reg : BeaconRegistry) (r : BeaconRecord) (id : String) :
    field? g (reg.release r) id = field? g reg id := by
  rw [field?, field?, BeaconRegistry.record?_release]

end Field

-- ── Loop invariants ──────────────────────────────────────────────────────────

section Invariants

variable {I I' : BeaconRegistry → List Connection → Prop}
  {Q Q' : BeaconRegistry → List Connection → String → BeaconRecord → Prop}

/-- An invariant of the sweep: `I` when it holds no record, `Q` while it does. -/
def SweepHolds (I : BeaconRegistry → List Connection → Prop)
    (Q : BeaconRegistry → List Connection → String → BeaconRecord → Prop)
    (conns : List Connection) : BeaconRegistry × SweepFuture → Prop
  | (reg, .waitingTick) => I reg conns
  | (reg, .unsubscribing id r _) => Q reg conns id r ∧ r.listenTopic ≠ ""
  | (reg, .lockingTopics id r _) => Q reg conns id r ∧ r.broadcastTopic ≠ ""

/-- The same, of a state of the message loop. -/
def Holds (I : BeaconRegistry → List Connection → Prop)
    (Q : BeaconRegistry → List Connection → String → BeaconRecord → Prop) (s : LoopState) :
    Prop :=
  SweepHolds I Q s.connections (s.registry, s.sweep)

/-- The sweep up to its next await, from one obligation for taking a record out and one for
    being done with it. Induction on the stale ids. -/
theorem sweepNext_holds {conns : List Connection}
    (take : ∀ reg id r, I reg conns → reg.record? id = some r → Q (reg.removeRecord id) conns id r)
    (finish : ∀ reg id r, Q reg conns id r → I (reg.release r) conns) :
    ∀ (ids : List String) (reg : BeaconRegistry), I reg conns →
      SweepHolds I Q conns (sweepNext reg ids) := by
  intro ids
  induction ids with
  | nil => intro reg h; exact h
  | cons id rest ih =>
      intro reg h
      rw [sweepNext]
      cases hr : reg.record? id with
      | none => exact ih reg h
      | some r =>
          have hq := take reg id r h hr
          simp only []
          by_cases hl : r.listenTopic = ""
          · rw [if_neg (not_not.mpr hl)]
            by_cases hb : r.broadcastTopic = ""
            · rw [if_neg (not_not.mpr hb)]
              refine ih _ ?_
              have := finish _ id r hq
              rwa [BeaconRegistry.release, if_neg (not_not.mpr hb)] at this
            · rw [if_pos hb]
              exact ⟨hq, hb⟩
          · rw [if_pos hl]
            exact ⟨hq, hl⟩

/-- An invariant may be weakened. -/
theorem Holds.mono {s : LoopState} (h : Holds I Q s) (hI : ∀ reg conns, I reg conns → I' reg conns)
    (hQ : ∀ reg conns id r, Q reg conns id r → Q' reg conns id r) : Holds I' Q' s := by
  obtain ⟨reg, fut, conns⟩ := s
  cases fut with
  | waitingTick => exact hI _ _ h
  | unsubscribing id r rest => exact ⟨hQ _ _ _ _ h.1, h.2⟩
  | lockingTopics id r rest => exact ⟨hQ _ _ _ _ h.1, h.2⟩

/-- Every event that lets the sweep continue keeps the invariant. -/
theorem Holds.sweep {app : App} {s s' : LoopState} {e : Event} (h : Holds I Q s)
    (hstep : step app s e = some s') (he : e.dropsSweep = false)
    (take : ∀ reg id r, I reg s.connections → reg.record? id = some r →
      Q (reg.removeRecord id) s.connections id r)
    (finish : ∀ reg id r, Q reg s.connections id r → I (reg.release r) s.connections) :
    Holds I Q s' := by
  have hnext := sweepNext_holds take finish
  obtain ⟨hconns, hsweep⟩ := step_sweep hstep he
  rw [Holds, hconns]
  rw [Holds] at h
  rcases hsweep with ⟨hfut, stale, heq⟩ | ⟨id, r, rest, hfut, heq⟩ | ⟨id, r, rest, hfut, heq⟩
  · rw [hfut] at h
    rw [heq]
    exact hnext stale s.registry h
  · rw [hfut] at h
    rw [heq, afterUnsubscribe]
    by_cases hb : r.broadcastTopic = ""
    · rw [if_neg (not_not.mpr hb)]
      refine hnext rest _ ?_
      have := finish s.registry id r h.1
      rwa [BeaconRegistry.release, if_neg (not_not.mpr hb)] at this
    · rw [if_pos hb]
      exact ⟨h.1, hb⟩
  · rw [hfut] at h
    rw [heq, afterLock]
    refine hnext rest _ ?_
    have := finish s.registry id r h.1
    rwa [BeaconRegistry.release, if_pos h.2] at this

/-- What is left of the invariant when the sweep is dropped. -/
theorem Holds.drop {s : LoopState} (h : Holds I Q s)
    (drop : ∀ id r, s.sweep.pending = some r → Q s.registry s.connections id r →
      I s.registry s.connections) :
    I s.registry s.connections := by
  obtain ⟨reg, fut, conns⟩ := s
  cases fut with
  | waitingTick => exact h
  | unsubscribing id r rest => exact drop id r rfl h.1
  | lockingTopics id r rest => exact drop id r rfl h.1

/-- **One step of the loop.** The obligations of an invariant are: what taking out a record and
    being done with it do, what remains when the sweep is dropped while holding a record, and
    what the two handlers do between records. The primed predicates may know the event. -/
theorem Holds.step {app : App} {s s' : LoopState} {e : Event} (h : Holds I Q s)
    (hstep : HamletRegistry.step app s e = some s')
    (take : ∀ reg conns id r, I reg conns → reg.record? id = some r →
      Q (reg.removeRecord id) conns id r)
    (finish : ∀ reg conns id r, Q reg conns id r → I (reg.release r) conns)
    (drop : e.dropsSweep = true → ∀ id r, s.sweep.pending = some r →
      Q s.registry s.connections id r → I s.registry s.connections)
    (channel : ∀ c now subscribed, e = .channel c now subscribed →
      I s.registry s.connections →
      I' (s.registry.registerChannel c now subscribed) s.connections)
    (message : ∀ msg now, e = .message msg now → I s.registry s.connections →
      I' (onMessage app s.registry s.connections msg now).1
        (onMessage app s.registry s.connections msg now).2)
    (same : e.dropsSweep = false → (∀ reg conns, I reg conns → I' reg conns) ∧
      ∀ reg conns id r, Q reg conns id r → Q' reg conns id r) :
    Holds I' Q' s' := by
  cases hd : e.dropsSweep with
  | false =>
      have h' := h.sweep hstep hd (fun reg => take reg _) (fun reg => finish reg _)
      exact h'.mono (same hd).1 (same hd).2
  | true =>
      have hI := h.drop (drop hd)
      cases e with
      | channel c now subscribed =>
          rw [step_channel hstep]
          exact channel c now subscribed rfl hI
      | message msg now =>
          rw [step_message hstep]
          exact message msg now rfl hI
      | tick now stale => exact Bool.noConfusion hd
      | unsubscribed answer => exact Bool.noConfusion hd
      | topicsLocked => exact Bool.noConfusion hd

/-- Two invariants hold together. -/
theorem Holds.and {s : LoopState} (h : Holds I Q s) (h' : Holds I' Q' s) :
    Holds (fun reg conns => I reg conns ∧ I' reg conns)
      (fun reg conns id r => Q reg conns id r ∧ Q' reg conns id r) s := by
  obtain ⟨reg, fut, conns⟩ := s
  cases fut with
  | waitingTick => exact ⟨h, h'⟩
  | unsubscribing id r rest => exact ⟨⟨h.1, h'.1⟩, h.2⟩
  | lockingTopics id r rest => exact ⟨⟨h.1, h'.1⟩, h.2⟩

/-- What is known of the record a suspended sweep holds. -/
theorem Holds.pending {s : LoopState} (h : Holds I Q s) {r : BeaconRecord}
    (hr : s.sweep.pending = some r) : ∃ id, Q s.registry s.connections id r := by
  obtain ⟨reg, fut, conns⟩ := s
  cases fut with
  | waitingTick => exact nomatch hr
  | unsubscribing id r' rest => obtain rfl := Option.some.inj hr; exact ⟨id, h.1⟩
  | lockingTopics id r' rest => obtain rfl := Option.some.inj hr; exact ⟨id, h.1⟩

end Invariants

end HamletRegistry
