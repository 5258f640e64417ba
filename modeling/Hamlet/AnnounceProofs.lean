import Hamlet.Lib.FifoProofs
import Hamlet.HandshakeProofs
import Hamlet.SubscriptionProofs

/-!
# Handshakes and the message loop

A handshake ends with two `try_send`s into the topic channel and the answer to the device; the
message loop takes the channels out of it and registers them. Any number of handshakes run at once,
and the loop may be waiting for a subscription while they do.

The system has the handshakes as small programs (`Phase`), which `advance` takes from one await or
`try_send` to the next — one of them alone is `handle_device_init` (`advance_alone`) — and the
message loop with what it is registering. Two lists keep the history of the channel: `sent` and
`received`.

`try_send` drops a topic when the channel is full or closed, and the handshake only logs it: the
device is told a beacon id that nobody listens for. `acknowledged_registered` says that this is the
only way to lose one: in every run in which every `try_send` finds a free slot of an open channel,
every acknowledged beacon has both its channels enqueued, and is registered with both topics once
the channel is drained.
-/

namespace HamletAnnounce

open Fifo EventRun HamletRegistry HamletBroadcastTopic HamletSubscription HamletHandshake
open HamletCloudGateway

-- ── A handshake under way ────────────────────────────────────────────────────

/-- Where a handshake stands. -/
inductive Phase where
  /-- The request was accepted; the CSR is to be signed. -/
  | accepted (request : DeviceInitRequest)
  /-- The certificate is stored; its file is to be written. -/
  | signed (request : DeviceInitRequest) (certPem : String)
  /-- The listen channel is to be announced. -/
  | recorded (request : DeviceInitRequest) (certPem : String)
  /-- The broadcast channel is to be announced. -/
  | halfAnnounced (request : DeviceInitRequest) (certPem : String)
  | answered (r : Response)

/-- The request is read and checked. -/
def Phase.start (req : HamletHandshake.Request) : Phase :=
  match processRequest req with
  | .error r => .answered r
  | .ok request => .accepted request

/-- The next thing the handshake does is a `try_send`. -/
def Phase.announces : Phase → Bool
  | .recorded .. => true
  | .halfAnnounced .. => true
  | _ => false

/-- `if let Some(tx) = &state.beacon_topic_tx` around one `try_send`. -/
def announce (app : AppState) (node : Node) (closed : Bool) (c : TopicChannel) : Node :=
  if app.hasTopicTx then trySend node closed c else node

/-- `handle_device_init`, from one await or `try_send` to the next. -/
def advance (app : AppState) (node : Node) (closed : Bool) (o : InitOutcome) :
    Phase → Phase × Node
  | .accepted request =>
      match signCsr app node request.device.mdns.hostname o with
      | (.error _, node) => (.answered (textResponse 500 "Failed to sign device certificate"), node)
      | (.ok certPem, node) => (.signed request certPem, node)
  | .signed request certPem =>
      match app.brokerage with
      | none => (.recorded request certPem, node)
      | some config =>
          match registerCertIdentity config node request.device.mdns.hostname certPem o.write with
          | (.error _, node) =>
              (.answered (textResponse 500 "Failed to register device MQTT identity"), node)
          | (.ok (), node) => (.recorded request certPem, node)
  | .recorded request certPem =>
      (.halfAnnounced request certPem, announce app node closed (listenChannel o.beaconId))
  | .halfAnnounced request certPem =>
      (.answered (answerInit app node request certPem o).1,
        announce app node closed (broadcastChannel o.beaconId))
  | .answered r => (.answered r, node)

/-- A handshake that nothing happens in between of. -/
def finish (app : AppState) (o : InitOutcome) (x : Phase × Node) : Phase × Node :=
  (fun x => advance app x.2 o.topicsClosed o x.1)^[4] x

/-- Alone it is `handle_device_init`. -/
theorem advance_alone (app : AppState) (node : Node) (req : HamletHandshake.Request)
    (o : InitOutcome) :
    finish app o (.start req, node) =
      (.answered (handleDeviceInit app node req o).1, (handleDeviceInit app node req o).2) := by
  simp only [finish, Function.iterate_succ_apply, Function.iterate_zero_apply]
  rw [handleDeviceInit, Phase.start]
  cases processRequest req with
  | error r => rfl
  | ok request =>
      simp only [advance]
      rcases signCsr app node request.device.mdns.hostname o with ⟨r, node₁⟩
      cases r with
      | error e => rfl
      | ok certPem =>
          simp only []
          -- from here on the topics are announced and the device answered
          have hannounce : ∀ node₂ : Node,
              (announce app (announce app node₂ o.topicsClosed (listenChannel o.beaconId))
                o.topicsClosed (broadcastChannel o.beaconId)) = announceTopics app node₂ o := by
            intro node₂
            rw [announceTopics]
            simp only [announce]
            split <;> rfl
          cases app.brokerage with
          | none =>
              simp only [hannounce]
              rfl
          | some config =>
              simp only []
              rcases registerCertIdentity config node₁ request.device.mdns.hostname certPem
                o.write with ⟨r, node₂⟩
              cases r with
              | error e => rfl
              | ok u =>
                  simp only [hannounce]
                  rfl

-- ── The system ───────────────────────────────────────────────────────────────

structure Call where
  outcome : InitOutcome
  phase   : Phase

/-- The handshakes and the message loop. `sent` and `received` are what went into and out of the
    topic channel, oldest first; `timedOut` are the beacons that a timeout has taken out. -/
structure System where
  node        : Node
  closed      : Bool
  calls       : List Call
  sent        : List TopicChannel
  loop        : LoopState
  /-- The channel that the loop has received and not finished registering. -/
  registering : Option TopicChannel
  /-- Each channel that was registered, with the answer of its `subscribe`. -/
  received    : List (TopicChannel × Except String Unit)
  timedOut    : Finset String

/-- Any occupancy of the channel, and any state of the loop. -/
def System.start (node : Node) (loop : LoopState) : System where
  node        := node
  closed      := false
  calls       := []
  sent        := []
  loop        := loop
  registering := none
  received    := []
  timedOut    := ∅

/-- What the message loop has still to register. -/
def System.waiting (s : System) : List TopicChannel := s.registering.toList ++ s.node.topicQueue

inductive Event where
  /-- A request comes in. -/
  | arrive (req : HamletHandshake.Request) (o : InitOutcome)
  /-- A handshake goes on. -/
  | advance (i : ℕ)
  /-- `beacon_topic_rx.recv()`. -/
  | receive
  /-- `register_channel` is done. -/
  | registered (now : Instant) (subscribed : Except String Unit)
  /-- Another branch of the loop. -/
  | loop (e : HamletRegistry.Event)
  /-- The loop ends and drops its end of the channel. -/
  | stop

/-- The event is the receipt of a channel. -/
def isChannel : HamletRegistry.Event → Bool
  | .channel .. => true
  | _ => false

/-- One step of a handshake, in the system. -/
def System.advanceCall (app : AppState) (s : System) (i : ℕ) (call : Call) : System :=
  let (phase, node) := HamletAnnounce.advance app s.node s.closed call.outcome call.phase
  { s with
    node  := node
    calls := s.calls.set i { call with phase := phase }
    sent  := s.sent ++ node.topicQueue.drop s.node.topicQueue.length }

/-- One event of the system. -/
def step (app : AppState) (loopApp : App) (s : System) : Event → Option System
  | .arrive req o => some { s with calls := s.calls ++ [⟨o, .start req⟩] }
  | .advance i => (s.calls[i]?).map (s.advanceCall app i)
  | .receive =>
      match s.closed, s.registering, s.node.topicQueue with
      | false, none, c :: queue =>
          some { s with node := { s.node with topicQueue := queue }, registering := some c }
      | _, _, _ => none
  | .registered now subscribed =>
      match s.registering with
      | none => none
      | some c =>
          (HamletRegistry.step loopApp s.loop (.channel c now subscribed)).map fun loop =>
            { s with
              loop        := loop
              registering := none
              received    := s.received ++ [(c, subscribed)] }
  | .loop e =>
      if s.closed || s.registering.isSome || isChannel e then none
      else
        (HamletRegistry.step loopApp s.loop e).map fun loop =>
          { s with
            loop     := loop
            timedOut := s.timedOut ∪ (s.loop.registry.records.keys \ loop.registry.records.keys) }
  | .stop => if s.registering.isSome then none else some { s with closed := true }

/-- What an event does when it can happen. -/
inductive Steps (app : AppState) (loopApp : App) (s : System) : Event → System → Prop where
  | arrive (req : HamletHandshake.Request) (o : InitOutcome) :
      Steps app loopApp s (.arrive req o) { s with calls := s.calls ++ [⟨o, .start req⟩] }
  | advance (i : ℕ) (call : Call) (hcall : s.calls[i]? = some call) :
      Steps app loopApp s (.advance i) (s.advanceCall app i call)
  | receive (c : TopicChannel) (queue : List TopicChannel)
      (hwaiting : s.waiting = c :: queue) :
      Steps app loopApp s .receive
        { s with node := { s.node with topicQueue := queue }, registering := some c }
  | registered (now : Instant) (subscribed : Except String Unit) (c : TopicChannel) (l : LoopState)
      (hc : s.registering = some c)
      (hl : l.registry = s.loop.registry.registerChannel c now subscribed) :
      Steps app loopApp s (.registered now subscribed)
        { s with loop := l, registering := none, received := s.received ++ [(c, subscribed)] }
  | loop (e : HamletRegistry.Event) (l : LoopState) (he : isChannel e = false)
      (hl : HamletRegistry.step loopApp s.loop e = some l) :
      Steps app loopApp s (.loop e)
        { s with
          loop     := l
          timedOut := s.timedOut ∪ (s.loop.registry.records.keys \ l.registry.records.keys) }
  | stop : Steps app loopApp s .stop { s with closed := true }

theorem steps_of_step {app : AppState} {loopApp : App} {s s' : System} {e : Event}
    (h : step app loopApp s e = some s') : Steps app loopApp s e s' := by
  cases e with
  | arrive req o =>
      obtain rfl := Option.some.inj h
      exact .arrive req o
  | advance i =>
      obtain ⟨call, hcall, rfl⟩ := Option.map_eq_some_iff.mp h
      exact .advance i call hcall
  | receive =>
      simp only [step] at h
      split at h
      · rename_i c queue hopen hnone hqueue
        obtain rfl := Option.some.inj h
        exact .receive c queue (by rw [System.waiting, hnone, hqueue]; rfl)
      · exact nomatch h
  | registered now subscribed =>
      simp only [step] at h
      split at h
      · exact nomatch h
      · rename_i c hc
        obtain ⟨l, hl, rfl⟩ := Option.map_eq_some_iff.mp h
        exact .registered now subscribed c l hc (by rw [step_channel hl])
  | loop e =>
      simp only [step] at h
      split at h
      · exact nomatch h
      · rename_i hfree
        obtain ⟨l, hl, rfl⟩ := Option.map_eq_some_iff.mp h
        simp only [Bool.or_eq_true, not_or, Bool.not_eq_true] at hfree
        exact .loop e l hfree.2 hl
  | stop =>
      simp only [step] at h
      split at h
      · exact nomatch h
      · obtain rfl := Option.some.inj h
        exact .stop

-- ── What is claimed of a beacon ──────────────────────────────────────────────

/-- The beacon id that a device is told: the `beacon_id` of a response with status 200. -/
def acknowledges (r : Response) : Option String :=
  match r.status, r.body with
  | 200, .json value => (value.get? "beacon_id").bind JsonValue.asStr?
  | _, _ => none

/-- The registry has both topics of the beacon. -/
def Registered (reg : BeaconRegistry) (b : String) : Prop :=
  ∃ r, reg.record? b = some r ∧ r.listenTopic = receiveTopic b ∧
    r.broadcastTopic = broadcastTopic b

/-- No subscription to the listen topic of the beacon has failed. -/
def SubscribesOk (s : System) (b : String) : Prop :=
  ∀ x ∈ s.received, x.1 = listenChannel b → x.2 = .ok ()

/-- Both channels of the beacon were enqueued; and when nothing is waiting any more and the
    subscription went through, the beacon is registered with both topics, unless it has timed out
    since. -/
structure Announced (s : System) (b : String) : Prop where
  listen     : listenChannel b ∈ s.sent
  broadcast  : broadcastChannel b ∈ s.sent
  registered : s.waiting = [] → SubscribesOk s b → b ∉ s.timedOut →
    Registered s.loop.registry b

/-- Every beacon that a device was told is announced. -/
def AllAnnounced (s : System) : Prop :=
  ∀ call ∈ s.calls, ∀ r b, call.phase = .answered r → acknowledges r = some b → Announced s b

/-- A `try_send` has room: the gateway has the sender, and the channel is open with fewer than 64
    entries. -/
structure HasRoom (app : AppState) (s : System) : Prop where
  sender   : app.hasTopicTx = true
  isOpen   : s.closed = false
  freeSlot : s.node.topicQueue.length < topicCapacity

/-- If the event is a `try_send` of a handshake, it has room. -/
def SendsWithRoom (app : AppState) (s : System) : Event → Prop
  | .advance i => ∀ call, s.calls[i]? = some call → call.phase.announces = true → HasRoom app s
  | _ => True

-- ── The steps of a handshake ─────────────────────────────────────────────────

/-- A channel as handshakes announce it. -/
def FromHandshake (c : TopicChannel) : Prop := ∃ id, c = listenChannel id ∨ c = broadcastChannel id

theorem announce_queue (app : AppState) (node : Node) (closed : Bool) (c : TopicChannel) :
    (announce app node closed c).topicQueue = node.topicQueue ∨
      (announce app node closed c).topicQueue = node.topicQueue ++ [c] := by
  rw [announce]
  split
  · rw [trySend]
    split
    · exact .inl rfl
    · exact .inr rfl
  · exact .inl rfl

/-- With room it gets through. -/
theorem announce_of_room {app : AppState} {s : System} (h : HasRoom app s) (c : TopicChannel) :
    (announce app s.node s.closed c).topicQueue = s.node.topicQueue ++ [c] := by
  have hno : ¬ (s.closed || decide (topicCapacity ≤ s.node.topicQueue.length)) = true := by
    simp [h.isOpen, h.freeSlot]
  rw [announce, if_pos h.sender, trySend, if_neg hno]

/-- Without room it is dropped. -/
theorem announce_of_noRoom {app : AppState} {s : System} (h : ¬ HasRoom app s) (c : TopicChannel) :
    announce app s.node s.closed c = s.node := by
  rw [announce]
  split
  · rename_i hsender
    rw [trySend, if_pos]
    by_contra hno
    simp only [Bool.or_eq_true, decide_eq_true_eq, not_or, Bool.not_eq_true, not_le] at hno
    exact h ⟨hsender, hno.1, hno.2⟩
  · rfl

/-- Signing touches no queue. -/
theorem signCsr_topicQueue (app : AppState) (node : Node) (deviceId : String) (o : InitOutcome) :
    (signCsr app node deviceId o).2.topicQueue = node.topicQueue := by
  rw [signCsr]
  split
  · rfl
  · cases o.sign with
    | error e => rfl
    | ok cert =>
        cases o.persist with
        | error e => rfl
        | ok u => rfl

/-- What a step of a handshake does to the channel: it sends at most one channel of its own. -/
theorem advance_queue (app : AppState) (node : Node) (closed : Bool) (o : InitOutcome)
    (phase : Phase) :
    ∃ new, (advance app node closed o phase).2.topicQueue = node.topicQueue ++ new ∧
      ∀ c ∈ new, FromHandshake c := by
  have hnone : ∀ queue : List TopicChannel, queue = node.topicQueue →
      ∃ new, queue = node.topicQueue ++ new ∧ ∀ c ∈ new, FromHandshake c :=
    fun queue h => ⟨[], by rw [h, List.append_nil], fun _ hc => (nomatch hc)⟩
  have hsend : ∀ c, FromHandshake c → ∃ new,
      (announce app node closed c).topicQueue = node.topicQueue ++ new ∧
        ∀ c ∈ new, FromHandshake c := by
    intro c hc
    rcases announce_queue app node closed c with h | h
    · exact hnone _ h
    · refine ⟨[c], h, fun c' hc' => ?_⟩
      rw [List.mem_singleton.mp hc']
      exact hc
  cases phase with
  | accepted request =>
      refine hnone _ ?_
      rw [← signCsr_topicQueue app node request.device.mdns.hostname o, advance]
      rcases signCsr app node request.device.mdns.hostname o with ⟨r, node'⟩
      cases r <;> rfl
  | signed request certPem =>
      refine hnone _ ?_
      rw [advance]
      cases app.brokerage with
      | none => rfl
      | some config =>
          rw [← (registerCertIdentity_frame config node request.device.mdns.hostname certPem
            o.write).2]
          simp only []
          rcases registerCertIdentity config node request.device.mdns.hostname certPem o.write with
            ⟨r, node'⟩
          cases r <;> rfl
  | recorded request certPem => exact hsend _ ⟨_, .inl rfl⟩
  | halfAnnounced request certPem => exact hsend _ ⟨_, .inr rfl⟩
  | answered r => exact hnone _ rfl

-- ── What an answer says ──────────────────────────────────────────────────────

/-- A text tells no beacon id. -/
theorem acknowledges_text (status : ℕ) (msg : String) :
    acknowledges (textResponse status msg) = none := by
  rw [acknowledges, textResponse]
  split
  · rename_i h
    exact nomatch h
  · rfl

theorem acknowledges_refused {req : HamletHandshake.Request} {r : Response}
    (h : processRequest req = .error r) : acknowledges r = none := by
  have htext : ∀ {status msg}, Except.error (textResponse status msg) =
      (.error r : Except Response DeviceInitRequest) → acknowledges r = none := by
    intro status msg heq
    rw [← Except.error.inj heq]
    exact acknowledges_text status msg
  rw [processRequest] at h
  split at h
  · exact htext h
  · split at h
    · exact htext h
    · split at h
      · exact htext h
      · exact htext h
      · exact nomatch h

theorem acknowledges_answerInit (app : AppState) (node : Node) (request : DeviceInitRequest)
    (certPem : String) (o : InitOutcome) :
    acknowledges (answerInit app node request certPem o).1 = some o.beaconId := rfl

-- ── A handshake that always finds room ───────────────────────────────────────

/-- What has been sent when a handshake stands where it does. -/
structure CallOk (sent : List TopicChannel) (call : Call) : Prop where
  half     : ∀ request certPem, call.phase = .halfAnnounced request certPem →
    listenChannel call.outcome.beaconId ∈ sent
  answered : ∀ r b, call.phase = .answered r → acknowledges r = some b →
    listenChannel b ∈ sent ∧ broadcastChannel b ∈ sent

theorem CallOk.mono {sent sent' : List TopicChannel} {call : Call} (h : CallOk sent call)
    (hsub : sent ⊆ sent') : CallOk sent' call where
  half     := fun request certPem hphase => hsub (h.half request certPem hphase)
  answered := fun r b hphase hack =>
    ⟨hsub (h.answered r b hphase hack).1, hsub (h.answered r b hphase hack).2⟩

/-- A phase before the announcements. -/
theorem CallOk.of_silent {sent : List TopicChannel} {call : Call}
    (hhalf : ∀ request certPem, call.phase ≠ .halfAnnounced request certPem)
    (hanswer : ∀ r, call.phase = .answered r → acknowledges r = none) : CallOk sent call where
  half     := fun request certPem hphase => absurd hphase (hhalf request certPem)
  answered := fun r _ hphase hack => nomatch (hanswer r hphase).symm.trans hack

theorem CallOk.start (sent : List TopicChannel) (req : HamletHandshake.Request) (o : InitOutcome) :
    CallOk sent ⟨o, .start req⟩ := by
  rw [Phase.start]
  cases hreq : processRequest req with
  | error r =>
      refine .of_silent nofun fun _ hphase => ?_
      cases hphase
      exact acknowledges_refused hreq
  | ok request => exact .of_silent nofun nofun

/-- What a step adds to `sent`. -/
theorem drop_append_queue {queue queue' new : List TopicChannel} (h : queue' = queue ++ new) :
    queue'.drop queue.length = new := by
  rw [h, List.drop_left]

/-- A step of a handshake that has room for what it announces. -/
theorem CallOk.advance {app : AppState} {s : System} {call : Call} (h : CallOk s.sent call)
    (hroom : call.phase.announces = true → HasRoom app s) (i : ℕ) :
    CallOk (s.advanceCall app i call).sent
      { call with
        phase := (HamletAnnounce.advance app s.node s.closed call.outcome call.phase).1 } := by
  obtain ⟨o, phase⟩ := call
  cases phase with
  | accepted request =>
      rw [HamletAnnounce.advance]
      rcases signCsr app s.node request.device.mdns.hostname o with ⟨r, node'⟩
      cases r with
      | error e =>
          refine .of_silent nofun fun _ hphase => ?_
          cases hphase
          exact acknowledges_text ..
      | ok certPem => exact .of_silent nofun nofun
  | signed request certPem =>
      rw [HamletAnnounce.advance]
      cases app.brokerage with
      | none => exact .of_silent nofun nofun
      | some config =>
          simp only []
          rcases registerCertIdentity config s.node request.device.mdns.hostname certPem
            o.write with ⟨r, node'⟩
          cases r with
          | error e =>
              refine .of_silent nofun fun _ hphase => ?_
              cases hphase
              exact acknowledges_text ..
          | ok u => exact .of_silent nofun nofun
  | recorded request certPem =>
      have hsent : (s.advanceCall app i ⟨o, .recorded request certPem⟩).sent =
          s.sent ++ [listenChannel o.beaconId] :=
        congrArg (s.sent ++ ·) (drop_append_queue (announce_of_room (hroom rfl) _))
      rw [hsent]
      exact ⟨fun _ _ _ => List.mem_append_right _ List.mem_cons_self, nofun⟩
  | halfAnnounced request certPem =>
      have hsent : (s.advanceCall app i ⟨o, .halfAnnounced request certPem⟩).sent =
          s.sent ++ [broadcastChannel o.beaconId] :=
        congrArg (s.sent ++ ·) (drop_append_queue (announce_of_room (hroom rfl) _))
      rw [hsent]
      refine ⟨nofun, fun _ _ hphase hack => ?_⟩
      cases hphase
      rw [acknowledges_answerInit] at hack
      obtain rfl := Option.some.inj hack
      exact ⟨List.mem_append_left _ (h.half request certPem rfl),
        List.mem_append_right _ List.mem_cons_self⟩
  | answered r =>
      exact h.mono (List.subset_append_left _ _)

-- ── What the loop does between two channels ──────────────────────────────────

/-- A message leaves the topics of every beacon alone, and the timer does so unless it takes the
    beacon out. -/
theorem topics_of_loop {loopApp : App} {l l' : LoopState} {e : HamletRegistry.Event}
    (h : HamletRegistry.step loopApp l e = some l') (he : isChannel e = false) {b : String}
    (hb : b ∉ l.registry.records.keys \ l'.registry.records.keys) :
    listen? l'.registry b = listen? l.registry b ∧
      castTopic? l'.registry b = castTopic? l.registry b := by
  cases hd : e.dropsSweep with
  | true =>
      cases e with
      | message msg now =>
          rw [step_message h]
          exact ⟨listen?_onMessage .., (onMessage_topics ..).2 b⟩
      | channel c now subscribed => exact Bool.noConfusion he
      | tick now stale => exact Bool.noConfusion hd
      | unsubscribed answer => exact Bool.noConfusion hd
      | topicsLocked => exact Bool.noConfusion hd
  | false =>
      have hsame : l'.registry.record? b = l.registry.record? b := by
        rcases record?_of_sweep h hd b with hnone | hsame
        · -- a record that is gone was not there before
          rw [hnone]
          symm
          rw [BeaconRegistry.record?, Finmap.lookup_eq_none]
          intro hmem
          refine hb (Finset.mem_sdiff.mpr ⟨Finmap.mem_keys.mpr hmem, fun hmem' => ?_⟩)
          exact Finmap.lookup_eq_none.mp hnone (Finmap.mem_keys.mp hmem')
        · exact hsame
      rw [listen?, field?, field?, castTopic?, castTopic?, hsame]
      exact ⟨rfl, rfl⟩

-- ── What every run guarantees ────────────────────────────────────────────────

/-- The books of the channel, and what the channels received since the start have left in the
    registry. The backlog may hold anything; the channels of handshakes come after it. -/
structure Books (backlog : List TopicChannel) (s : System) : Prop where
  accounted : Accounted backlog s.sent (s.received.map Prod.fst) s.waiting
  own       : ∀ c ∈ s.sent, FromHandshake c
  listening : ∀ b, b ∉ s.timedOut → ∀ x ∈ s.received.drop backlog.length, x.1 = listenChannel b →
    x.2 = .ok () → listen? s.loop.registry b = some (receiveTopic b)
  casting   : ∀ b, b ∉ s.timedOut → ∀ x ∈ s.received.drop backlog.length,
    x.1 = broadcastChannel b → castTopic? s.loop.registry b = some (broadcastTopic b)

theorem Books.start (node : Node) (loop : LoopState) :
    Books node.topicQueue (.start node loop) where
  accounted := .start node.topicQueue
  own       := fun _ hc => nomatch hc
  listening := fun _ _ x hx => by rw [System.start, List.drop_nil] at hx; exact nomatch hx
  casting   := fun _ _ x hx => by rw [System.start, List.drop_nil] at hx; exact nomatch hx

section Step

variable {backlog : List TopicChannel} {s : System}

/-- A step of a handshake appends what it sends, and nothing else shows. -/
theorem Books.advanceCall (h : Books backlog s) (app : AppState) (i : ℕ) (call : Call) :
    Books backlog (s.advanceCall app i call) := by
  obtain ⟨new, hqueue, hnew⟩ := advance_queue app s.node s.closed call.outcome call.phase
  have hsent : (s.advanceCall app i call).sent = s.sent ++ new :=
    congrArg (s.sent ++ ·) (drop_append_queue hqueue)
  have hwaiting : (s.advanceCall app i call).waiting = s.waiting ++ new := by
    rw [System.waiting, System.waiting, List.append_assoc]
    exact congrArg (s.registering.toList ++ ·) hqueue
  refine ⟨?_, ?_, h.listening, h.casting⟩
  · rw [hsent, hwaiting]
    exact h.accounted.send new
  · intro c hc
    rw [hsent] at hc
    rcases List.mem_append.mp hc with hc | hc
    · exact h.own c hc
    · exact hnew c hc

/-- Between the channels the topics stay, but for beacons that time out. -/
theorem Books.loop (h : Books backlog s) {loopApp : App} {l : LoopState} {e : HamletRegistry.Event}
    (hstep : HamletRegistry.step loopApp s.loop e = some l) (he : isChannel e = false) :
    Books backlog { s with
      loop     := l
      timedOut := s.timedOut ∪ (s.loop.registry.records.keys \ l.registry.records.keys) } := by
  have hsame : ∀ b, b ∉ s.timedOut ∪ (s.loop.registry.records.keys \ l.registry.records.keys) →
      b ∉ s.timedOut ∧ listen? l.registry b = listen? s.loop.registry b ∧
        castTopic? l.registry b = castTopic? s.loop.registry b := by
    intro b hb
    rw [Finset.mem_union, not_or] at hb
    exact ⟨hb.1, topics_of_loop hstep he hb.2⟩
  refine ⟨h.accounted, h.own, fun b hb x hx hc hok => ?_, fun b hb x hx hc => ?_⟩
  · obtain ⟨hb', hlisten, -⟩ := hsame b hb
    exact hlisten.trans (h.listening b hb' x hx hc hok)
  · obtain ⟨hb', -, hcast⟩ := hsame b hb
    exact hcast.trans (h.casting b hb' x hx hc)

/-- The listen topics after a channel of a handshake. -/
theorem listen?_registered (reg : BeaconRegistry) {c : TopicChannel} (hc : FromHandshake c)
    (now : Instant) (subscribed : Except String Unit) (b : String) :
    (c = listenChannel b → subscribed = .ok () →
        listen? (reg.registerChannel c now subscribed) b = some (receiveTopic b)) ∧
      (listen? reg b = some (receiveTopic b) →
        listen? (reg.registerChannel c now subscribed) b = some (receiveTopic b)) := by
  obtain ⟨id, rfl | rfl⟩ := hc
  · rw [(listen?_registerChannel reg id now subscribed b).2]
    constructor
    · intro heq hok
      obtain rfl : id = b := congrArg TopicChannel.beaconId heq
      exact if_pos ⟨rfl, hok⟩
    · intro hlisten
      split
      · rename_i hid
        rw [hid.1]
      · exact hlisten
  · rw [(listen?_registerChannel reg id now subscribed b).1]
    exact ⟨fun heq => (nomatch congrArg TopicChannel.topicType heq), fun h => h⟩

/-- The broadcast topics after a channel of a handshake. -/
theorem castTopic?_registered (reg : BeaconRegistry) {c : TopicChannel} (hc : FromHandshake c)
    (now : Instant) (subscribed : Except String Unit) (b : String) :
    (c = broadcastChannel b →
        castTopic? (reg.registerChannel c now subscribed) b = some (broadcastTopic b)) ∧
      (castTopic? reg b = some (broadcastTopic b) →
        castTopic? (reg.registerChannel c now subscribed) b = some (broadcastTopic b)) := by
  obtain ⟨id, rfl | rfl⟩ := hc
  · rw [(register_listen reg id now subscribed).2 b]
    refine ⟨fun heq => (nomatch congrArg TopicChannel.topicType heq), fun hcast => ?_⟩
    split
    · rename_i hid
      rw [← hid, hcast]
      rfl
    · exact hcast
  · rw [(register_broadcast reg id now subscribed).2 b]
    constructor
    · intro heq
      obtain rfl : id = b := congrArg TopicChannel.beaconId heq
      exact if_pos rfl
    · intro hcast
      split
      · rename_i hid
        rw [hid]
      · exact hcast

/-- A channel is registered. -/
theorem Books.registered (h : Books backlog s) {c : TopicChannel} (hc : s.registering = some c)
    (now : Instant) (subscribed : Except String Unit) {l : LoopState}
    (hl : l.registry = s.loop.registry.registerChannel c now subscribed) :
    Books backlog { s with
      loop := l, registering := none, received := s.received ++ [(c, subscribed)] } := by
  have hwaiting : s.waiting = c :: s.node.topicQueue := by
    rw [System.waiting, hc]
    rfl
  have hacc := h.accounted
  rw [hwaiting] at hacc
  refine ⟨?_, h.own, fun b hb x hx => ?_, fun b hb x hx => ?_⟩
  · rw [List.map_append]
    exact hacc.receive
  all_goals
    -- an entry past the backlog: the channel is one that was sent
    rcases Nat.lt_or_ge s.received.length backlog.length with hlen | hlen
    · rw [List.drop_eq_nil_of_le (by rw [List.length_append]; exact hlen)] at hx
      exact nomatch hx
    have hown : FromHandshake c := h.own c (hacc.head_sent (by rwa [List.length_map]))
    rw [List.drop_append_of_le_length hlen] at hx
    rw [hl]
  · obtain ⟨hnew, hold⟩ := listen?_registered s.loop.registry hown now subscribed b
    intro hxc hok
    rcases List.mem_append.mp hx with hx | hx
    · exact hold (h.listening b hb x hx hxc hok)
    · obtain rfl := List.mem_singleton.mp hx
      exact hnew hxc hok
  · obtain ⟨hnew, hold⟩ := castTopic?_registered s.loop.registry hown now subscribed b
    intro hxc
    rcases List.mem_append.mp hx with hx | hx
    · exact hold (h.casting b hb x hx hxc)
    · obtain rfl := List.mem_singleton.mp hx
      exact hnew hxc

/-- Every event keeps the books. -/
theorem Books.step (h : Books backlog s) {app : AppState} {loopApp : App} {e : Event} {s' : System}
    (hstep : HamletAnnounce.step app loopApp s e = some s') : Books backlog s' := by
  cases steps_of_step hstep with
  | arrive req o => exact ⟨h.accounted, h.own, h.listening, h.casting⟩
  | advance i call hcall => exact h.advanceCall app i call
  | receive c queue hwaiting =>
      -- the channel is still waiting, to be registered
      have hacc := h.accounted
      rw [hwaiting] at hacc
      exact ⟨hacc, h.own, h.listening, h.casting⟩
  | registered now subscribed c l hc hl => exact h.registered hc now subscribed hl
  | loop e l he hl => exact h.loop hl he
  | stop => exact ⟨h.accounted, h.own, h.listening, h.casting⟩

/-- The event lets the timeout sweep go on. -/
def Event.isTimer : Event → Bool
  | .loop e => !e.dropsSweep
  | _ => false

/-- Without the timer nothing times out. -/
theorem timedOut_of_untimed {app : AppState} {loopApp : App} {e : Event} {s' : System}
    (hstep : HamletAnnounce.step app loopApp s e = some s') (he : e.isTimer = false) :
    s'.timedOut = s.timedOut := by
  cases steps_of_step hstep with
  | loop e l hchannel hl =>
      cases e with
      | message msg now =>
          have hkeys : s.loop.registry.records.keys \ l.registry.records.keys = ∅ := by
            rw [Finset.sdiff_eq_empty_iff_subset]
            intro b hb
            -- a message keeps the broadcast topic of every record, so it keeps the record
            have hcast := (onMessage_topics loopApp s.loop.registry s.loop.connections msg now).2 b
            obtain ⟨r, hr⟩ := Finmap.mem_iff.mp (Finmap.mem_keys.mp hb)
            have hold : castTopic? s.loop.registry b = some r.broadcastTopic :=
              castTopic?_eq_some.mpr ⟨r, hr, rfl⟩
            obtain ⟨r', hr', -⟩ := castTopic?_eq_some.mp (hcast.trans hold)
            rw [step_message hl]
            exact Finmap.mem_keys.mpr (Finmap.mem_iff.mpr ⟨r', hr'⟩)
          show s.timedOut ∪ _ = s.timedOut
          rw [hkeys, Finset.union_empty]
      | channel c now subscribed => exact Bool.noConfusion hchannel
      | tick now stale => exact Bool.noConfusion he
      | unsubscribed answer => exact Bool.noConfusion he
      | topicsLocked => exact Bool.noConfusion he
  | _ => rfl

-- ── Runs in which every `try_send` finds room ────────────────────────────────

/-- Every handshake has sent what it should have. -/
def CallsOk (s : System) : Prop := ∀ call ∈ s.calls, CallOk s.sent call

theorem CallsOk.step (h : CallsOk s) {app : AppState} {loopApp : App} {e : Event} {s' : System}
    (hroom : SendsWithRoom app s e) (hstep : HamletAnnounce.step app loopApp s e = some s') :
    CallsOk s' := by
  cases steps_of_step hstep with
  | arrive req o =>
      intro call hcall
      rcases List.mem_append.mp hcall with hcall | hcall
      · exact h call hcall
      · rw [List.mem_singleton.mp hcall]
        exact .start s.sent req o
  | advance i call hcall =>
      have hnext := (h call (List.mem_of_getElem? hcall)).advance (hroom call hcall) i
      intro call' hcall'
      rcases List.mem_or_eq_of_mem_set hcall' with hold | rfl
      · exact (h call' hold).mono (List.subset_append_left _ _)
      · exact hnext
  | _ => exact h

/-- What was sent is registered when nothing is waiting. -/
theorem AllAnnounced.of_books (hbooks : Books backlog s) (hcalls : CallsOk s) : AllAnnounced s := by
  intro call hcall r b hphase hack
  obtain ⟨hlisten, hcast⟩ := (hcalls call hcall).answered r b hphase hack
  refine ⟨hlisten, hcast, fun hwaiting hsub hb => ?_⟩
  have hacc := hbooks.accounted
  rw [hwaiting] at hacc
  have hdrop : (s.received.drop backlog.length).map Prod.fst = s.sent := by
    rw [List.map_drop]
    exact hacc.drained
  rw [← hdrop] at hlisten hcast
  obtain ⟨x, hx, hxc⟩ := List.mem_map.mp hlisten
  obtain ⟨y, hy, hyc⟩ := List.mem_map.mp hcast
  have hok := hsub x (List.mem_of_mem_drop hx) hxc
  obtain ⟨r₁, hr₁, hl⟩ := field?_eq_some.mp (hbooks.listening b hb x hx hxc hok)
  obtain ⟨r₂, hr₂, hc⟩ := castTopic?_eq_some.mp (hbooks.casting b hb y hy hyc)
  obtain rfl := Option.some.inj (hr₁.symm.trans hr₂)
  refine ⟨r₁, hr₁, ?_, hc⟩
  by_contra hne
  rw [listenOf] at hl
  split at hl
  · cases hl
  · exact hne (Option.some.inj hl)

end Step

/-- The channel that a handshake is about to `try_send`. -/
def Call.next? (call : Call) : Option TopicChannel :=
  match call.phase with
  | .recorded .. => some (listenChannel call.outcome.beaconId)
  | .halfAnnounced .. => some (broadcastChannel call.outcome.beaconId)
  | _ => none

/-- **The condition is needed**: a `try_send` of a fresh channel without room is at most two steps
    away from an acknowledged beacon that is not announced. -/
theorem not_announced_of_noRoom {app : AppState} (loopApp : App) {s : System} {i : ℕ} {call : Call}
    {c : TopicChannel} (hcall : s.calls[i]? = some call) (hnext : call.next? = some c)
    (hroom : ¬ HasRoom app s) (hfresh : c ∉ s.sent) :
    ∃ es s', run (step app loopApp) s es = some s' ∧ ¬ AllAnnounced s' := by
  obtain ⟨o, phase⟩ := call
  have hi : i < s.calls.length := (List.getElem?_eq_some_iff.mp hcall).1
  -- the `try_send` leaves the books as they are
  have hdrop : ∀ c', s.sent ++ (announce app s.node s.closed c').topicQueue.drop
      s.node.topicQueue.length = s.sent := by
    intro c'
    rw [announce_of_noRoom hroom c', List.drop_length, List.append_nil]
  cases phase with
  | accepted request => exact nomatch hnext
  | signed request certPem => exact nomatch hnext
  | answered r => exact nomatch hnext
  | halfAnnounced request certPem =>
      obtain rfl := Option.some.inj hnext
      refine ⟨[.advance i], _, by rw [run_singleton, step, hcall]; rfl, fun hall => ?_⟩
      have hann := hall _ (List.mem_set hi _) _ o.beaconId rfl (acknowledges_answerInit ..)
      exact hfresh ((hdrop _) ▸ hann.broadcast)
  | recorded request certPem =>
      obtain rfl := Option.some.inj hnext
      -- the second `try_send` may get through, but it sends the other channel
      let s₁ := s.advanceCall app i ⟨o, .recorded request certPem⟩
      have hcall₁ : s₁.calls[i]? = some ⟨o, .halfAnnounced request certPem⟩ :=
        List.getElem?_set_self hi
      have hi₁ : i < s₁.calls.length := (List.getElem?_eq_some_iff.mp hcall₁).1
      refine ⟨[.advance i, .advance i], s₁.advanceCall app i ⟨o, .halfAnnounced request certPem⟩,
        ?_, fun hall => ?_⟩
      · rw [run_cons, step, hcall, Option.map_some, Option.bind_some, run_singleton, step]
        exact congrArg (Option.map _) hcall₁
      · have hann := hall _ (List.mem_set hi₁ _) _ o.beaconId rfl (acknowledges_answerInit ..)
        have hmem : listenChannel o.beaconId ∈ s₁.sent ++ (announce app s₁.node s₁.closed
            (broadcastChannel o.beaconId)).topicQueue.drop s₁.node.topicQueue.length := hann.listen
        rcases List.mem_append.mp hmem with hmem | hmem
        · exact hfresh ((hdrop _) ▸ hmem)
        · rcases announce_queue app s₁.node s₁.closed (broadcastChannel o.beaconId) with h | h
          · rw [h, List.drop_length] at hmem
            exact nomatch hmem
          · rw [h, List.drop_left] at hmem
            exact nomatch congrArg TopicChannel.topicType (List.mem_singleton.mp hmem)

/-- **Acknowledged beacons.** From any occupancy of the channel and any state of the loop, for every
    interleaving of handshakes and message loop: if every `try_send` finds a free slot of the open
    channel, then in every state every acknowledged beacon is announced. Beacons time out only when
    the timer runs. -/
theorem acknowledged_registered (app : AppState) (loopApp : App) (node : Node) (loop : LoopState)
    (es : List Event)
    (hroom : EachStep (step app loopApp) (.start node loop) es (SendsWithRoom app)) :
    Throughout (step app loopApp) (.start node loop) es fun s =>
      AllAnnounced s ∧ ((∀ e ∈ es, e.isTimer = false) → s.timedOut = ∅) := by
  have hinv : ∀ (p : List Event) (s : System),
      run (step app loopApp) (.start node loop) p = some s →
      Books node.topicQueue s ∧ ((∀ e ∈ p, e.isTimer = false) → s.timedOut = ∅) := by
    refine run_induction ⟨.start node loop, fun _ => rfl⟩ ?_
    rintro p e s s' - ⟨hbooks, huntimed⟩ hstep
    refine ⟨hbooks.step hstep, fun hall => ?_⟩
    rw [timedOut_of_untimed hstep (hall e (List.mem_append_right _ List.mem_cons_self))]
    exact huntimed fun e' he' => hall e' (List.mem_append_left _ he')
  have hcalls : Throughout (step app loopApp) (.start node loop) es CallsOk :=
    throughout_of_eachStep (I := fun _ _ => True) hroom (fun _ _ _ _ _ => trivial)
      (fun _ hcall => nomatch hcall)
      fun _ _ _ _ _ _ hJ hC hstep => hJ.step hC hstep
  intro p q hes s hs
  obtain ⟨hbooks, huntimed⟩ := hinv p s hs
  refine ⟨.of_books hbooks (hcalls p q hes s hs), fun hall => huntimed fun e he => ?_⟩
  exact hall e (by rw [hes]; exact List.mem_append_left _ he)

-- ── The last free slots ──────────────────────────────────────────────────────

/-- The gateway of a node with default settings and no broker of its own. -/
def plainApp : AppState :=
  .ofConfig (HamletConfig.Config.fromEnv (fun _ => none) "/srv") "CA cert" false

def plainLoop : App where
  serverUrl     := "http://localhost:8080"
  ownGatewayUrl := none

/-- A node with `n` channels waiting. -/
def nodeWithBacklog (n : ℕ) : Node where
  deviceCerts := fun _ => none
  files       := fun _ => none
  topicQueue  := List.replicate n (listenChannel "b0")
  written     := []

/-- One handshake from its request to its answer, then `n` channels are registered. -/
def handshakeThenDrain (n : ℕ) : List Event :=
  [.arrive (claimHostname "cam").1 (claimHostname "cam").2, .advance 0, .advance 0, .advance 0,
    .advance 0] ++ (List.replicate n [.receive, .registered 0 (.ok ())]).flatten

/-- A handshake that finds two free slots. -/
theorem acknowledged_registered_twoSlots :
    ∃ s, run (step plainApp plainLoop) (.start (nodeWithBacklog 62) (.init plainLoop))
        (handshakeThenDrain 64) = some s ∧
      (∃ call ∈ s.calls, ∃ r, call.phase = .answered r ∧ acknowledges r = some "b1") ∧
      s.waiting = [] ∧ Registered s.loop.registry "b1" := by
  have hroom : EachStep (step plainApp plainLoop) (.start (nodeWithBacklog 62) (.init plainLoop))
      (handshakeThenDrain 64) (SendsWithRoom plainApp) := by
    refine eachStep_cons trivial fun t ht => ?_
    obtain rfl := Option.some.inj ht
    refine eachStep_cons (fun _ _ _ => ⟨rfl, rfl, by decide⟩) fun t ht => ?_
    obtain rfl := Option.some.inj ht
    refine eachStep_cons (fun _ _ _ => ⟨rfl, rfl, by decide⟩) fun t ht => ?_
    obtain rfl := Option.some.inj ht
    refine eachStep_cons (fun _ _ _ => ⟨rfl, rfl, by decide⟩) fun t ht => ?_
    obtain rfl := Option.some.inj ht
    refine eachStep_cons (fun _ _ _ => ⟨rfl, rfl, by decide⟩) fun t ht => ?_
    intro p e q hes u hu
    -- the rest are receipts
    have he : e ∈ (List.replicate 64 [Event.receive, .registered 0 (.ok ())]).flatten := by
      have hmem : e ∈ p ++ e :: q := List.mem_append_right p List.mem_cons_self
      rwa [← hes] at hmem
    obtain ⟨pair, hpair, he⟩ := List.mem_flatten.mp he
    rw [(List.mem_replicate.mp hpair).2] at he
    rcases List.mem_cons.mp he with rfl | he
    · trivial
    · rw [List.mem_singleton.mp he]
      trivial
  obtain ⟨hann, -⟩ := acknowledged_registered plainApp plainLoop (nodeWithBacklog 62)
    (.init plainLoop) (handshakeThenDrain 64) hroom (handshakeThenDrain 64) []
    (List.append_nil _).symm _ rfl
  refine ⟨_, rfl, ⟨_, List.mem_cons_self, _, rfl, rfl⟩, rfl, ?_⟩
  refine (hann _ List.mem_cons_self _ "b1" rfl rfl).registered rfl ?_ ?_
  · unfold SubscribesOk
    decide
  · exact Finset.notMem_empty "b1"

/-- **A beacon is acknowledged and left half-registered**: the same handshake finds one free slot,
    gets its listen channel in and its broadcast channel dropped, and answers 200. When the channel
    is drained, and every subscription went through, the record has no broadcast topic. -/
theorem acknowledged_half_registered :
    ∃ s, run (step plainApp plainLoop) (.start (nodeWithBacklog 63) (.init plainLoop))
        (handshakeThenDrain 64) = some s ∧
      (∃ call ∈ s.calls, ∃ r, call.phase = .answered r ∧ acknowledges r = some "b1") ∧
      broadcastChannel "b1" ∉ s.sent ∧ s.waiting = [] ∧ SubscribesOk s "b1" ∧
      s.timedOut = ∅ ∧ ¬ Registered s.loop.registry "b1" := by
  refine ⟨_, rfl, ⟨_, List.mem_cons_self, _, rfl, rfl⟩, by decide, rfl, ?_, rfl, ?_⟩
  · unfold SubscribesOk
    decide
  · rintro ⟨r, hr, -, hcast⟩
    have hempty : (some r).map BeaconRecord.broadcastTopic = some "" := by
      rw [← hr]
      decide +kernel
    exact broadcastTopic_ne_empty "b1" (hcast.symm.trans (Option.some.inj hempty))

end HamletAnnounce
