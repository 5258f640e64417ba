import Mathlib.Data.List.ModifyLast
import Hamlet.CloudGatewayProofs
import Hamlet.Lib.BackoffProofs
import Hamlet.Lib.EventRunProofs
import Hamlet.Lib.HistoryProofs

/-!
# The WebSocket connection task of a cloud gateway

`spawn_connection_task` of the cloud gateway client is two nested loops around one queue: the
outer one dials the endpoint, the inner one serves a connection until it fails. The task is a
step function on where it stands (`Phase`), its backoff delay, the outbound queue and the sockets
it has opened so far, each with the frames that were written to it SUCCESSFULLY. Every outcome the
environment chooses is an event: the answer of `connect_async`, of each `sink.send`, what the
stream yields, which branch a `select!` takes, a message another task enqueues.

* `frame_order` — Register comes first on every connection, and what follows it, over all
  connections, is a subsequence of what was enqueued;
* `delivery_iff_no_sendFailed` — nothing is lost exactly when no message send fails: a message has
  left the queue when its send fails, and nobody puts it back;
* `spaced_connects_iff` — two connection attempts have a sleep between them exactly when no
  failure to write Register leads straight into another attempt.
-/

namespace HamletGatewaySocket

open HamletCloudGateway EventRun History

/-- `OUTBOUND_CAPACITY`. -/
def outboundCapacity : ℕ := 64

/-- `INITIAL_RECONNECT_DELAY`, in seconds. -/
def initialReconnectDelay : ℕ := 2

/-- `MAX_RECONNECT_DELAY`, in seconds. -/
def maxReconnectDelay : ℕ := 60

/-- A WebSocket frame the task writes (`tungstenite::Message`). -/
inductive Frame where
  | text (text : String)
  | pong (data : List UInt8)
  | close
  deriving DecidableEq, Repr

/-- The payload of a text frame. -/
def Frame.text? : Frame → Option String
  | .text t => some t
  | _ => none

/-- One connection: where it was dialled and what was written to it, oldest first. -/
structure Socket where
  url    : String
  frames : List Frame
  deriving DecidableEq, Repr

/-- `sink.send(frame)` that returns `Ok`. -/
def Socket.write (f : Frame) (k : Socket) : Socket := { k with frames := k.frames ++ [f] }

/-- The text frames of a connection after its first frame. -/
def Socket.otherTexts (k : Socket) : List String := k.frames.tail.filterMap Frame.text?

/-- Where the task stands. -/
inductive Phase where
  /-- The top of `'reconnect`. -/
  | head
  /-- In the `select!` of the shutdown receiver and `connect_async`. -/
  | connecting
  /-- The stream is up, Register is to be written. -/
  | connected
  /-- In the `select!` of the inner loop. -/
  | running
  /-- In `sink.send` of a message that has left the queue. -/
  | sending (text : String)
  /-- In `tokio::time::sleep(delay)`. -/
  | waiting
  | stopped
  deriving DecidableEq, Repr

/-- What the task is spawned with; `toJson` is `serde_json::to_string`. -/
structure TaskConfig where
  serverUrl : String
  wsUrl     : String
  toJson    : GatewayMessage → Except String String

/-- The Register frame of this server. -/
def TaskConfig.register (cfg : TaskConfig) : GatewayMessage := .register cfg.serverUrl

/-- The texts of the messages that serialise. -/
def TaskConfig.texts (cfg : TaskConfig) (msgs : List GatewayMessage) : List String :=
  msgs.filterMap fun msg => (cfg.toJson msg).toOption

structure TaskState where
  phase    : Phase
  delay    : ℕ
  outbound : List GatewayMessage
  sockets  : List Socket

/-- The task as it is spawned; a service may have messages queued before its start. -/
def start (backlog : List GatewayMessage) : TaskState where
  phase    := .head
  delay    := initialReconnectDelay
  outbound := backlog
  sockets  := []

/-- What can happen to the task. -/
inductive Event where
  /-- `CloudGatewayHandle::send` of some other task gets its message into the queue. -/
  | enqueue (msg : GatewayMessage)
  | connect
  | connected
  | connectFailed
  | registerSent
  | registerSendFailed
  | registerUnserialisable
  /-- `outbound_rx.recv()` yields the oldest message. -/
  | outbound
  | sent
  | sendFailed
  /-- The stream yields a text frame, which is only logged, or a frame nobody handles. -/
  | inbound
  /-- The stream yields a Ping; whether the Pong was written is not looked at. -/
  | ping (data : List UInt8) (ponged : Bool)
  /-- The stream yields a Close frame, its end or an error. -/
  | closed
  /-- A sleep of so many seconds is over. -/
  | slept (secs : ℕ)
  /-- The shutdown receiver fires; in the inner loop a Close frame is tried. -/
  | shutdown (closeSent : Bool)

/-- Write to the latest connection. -/
def TaskState.write (f : Frame) (s : TaskState) : TaskState :=
  { s with sockets := s.sockets.modifyLast (Socket.write f) }

/-- The task ends and drops its receiver. -/
def TaskState.stop (s : TaskState) : TaskState := { s with phase := .stopped, outbound := [] }

/-- `spawn_connection_task`: one step. -/
def step (cfg : TaskConfig) (s : TaskState) (e : Event) : Option TaskState :=
  match e, s.phase with
  | .enqueue _, .stopped => none
  | .enqueue msg, _ =>
      if s.outbound.length < outboundCapacity then
        some { s with outbound := s.outbound ++ [msg] }
      else none
  | .connect, .head => some { s with phase := .connecting }
  | .shutdown _, .head => some s.stop
  | .shutdown _, .connecting => some s.stop
  | .connectFailed, .connecting => some { s with phase := .waiting }
  | .connected, .connecting =>
      some { s with
        phase   := .connected
        delay   := initialReconnectDelay
        sockets := s.sockets ++ [⟨cfg.wsUrl, []⟩] }
  | .registerSent, .connected =>
      match cfg.toJson cfg.register with
      | .ok text => some { s.write (.text text) with phase := .running }
      | .error _ => none
  | .registerSendFailed, .connected =>
      match cfg.toJson cfg.register with
      | .ok _    => some { s with phase := .head }
      | .error _ => none
  | .registerUnserialisable, .connected =>
      match cfg.toJson cfg.register with
      | .ok _    => none
      | .error _ => some { s with phase := .head }
  | .shutdown closeSent, .running =>
      some (if closeSent then (s.write .close).stop else s.stop)
  | .outbound, .running =>
      match s.outbound with
      | []          => none
      | msg :: rest =>
          match cfg.toJson msg with
          | .ok text => some { s with phase := .sending text, outbound := rest }
          | .error _ => some { s with outbound := rest }
  | .sent, .sending text => some { s.write (.text text) with phase := .running }
  | .sendFailed, .sending _ => some { s with phase := .waiting }
  | .inbound, .running => some s
  | .ping data ponged, .running => some (if ponged then s.write (.pong data) else s)
  | .closed, .running => some { s with phase := .waiting }
  | .slept secs, .waiting =>
      if secs = s.delay then
        some { s with phase := .head, delay := Backoff.double maxReconnectDelay s.delay }
      else none
  | _, _ => none

/-- The task `connect_to_gateway` spawns for a connection. -/
def taskOf (toJson : GatewayMessage → Except String String) (c : Connection) : TaskConfig :=
  ⟨c.serverUrl, c.wsUrl, toJson⟩

/-- What a step can do: the step function read backwards, one rule for each way through it. -/
inductive Moves (cfg : TaskConfig) (s : TaskState) : Event → TaskState → Prop
  | enqueue (msg : GatewayMessage) (hp : s.phase ≠ .stopped)
      (room : s.outbound.length < outboundCapacity) :
      Moves cfg s (.enqueue msg) { s with outbound := s.outbound ++ [msg] }
  | connect (hp : s.phase = .head) : Moves cfg s .connect { s with phase := .connecting }
  | shutdown (b : Bool) (hp : s.phase = .head ∨ s.phase = .connecting ∨ s.phase = .running) :
      Moves cfg s (.shutdown b) s.stop
  | shutdownClose (hp : s.phase = .running) : Moves cfg s (.shutdown true) (s.write .close).stop
  | connectFailed (hp : s.phase = .connecting) :
      Moves cfg s .connectFailed { s with phase := .waiting }
  | connected (hp : s.phase = .connecting) :
      Moves cfg s .connected
        { s with
          phase   := .connected
          delay   := initialReconnectDelay
          sockets := s.sockets ++ [⟨cfg.wsUrl, []⟩] }
  | registerSent (text : String) (hp : s.phase = .connected)
      (hjson : cfg.toJson cfg.register = .ok text) :
      Moves cfg s .registerSent { s.write (.text text) with phase := .running }
  | registerSendFailed (hp : s.phase = .connected) :
      Moves cfg s .registerSendFailed { s with phase := .head }
  | registerUnserialisable (hp : s.phase = .connected) :
      Moves cfg s .registerUnserialisable { s with phase := .head }
  | outbound (msg : GatewayMessage) (rest : List GatewayMessage) (text : String)
      (hp : s.phase = .running) (hq : s.outbound = msg :: rest)
      (hjson : cfg.toJson msg = .ok text) :
      Moves cfg s .outbound { s with phase := .sending text, outbound := rest }
  | unserialisable (msg : GatewayMessage) (rest : List GatewayMessage) (err : String)
      (hp : s.phase = .running) (hq : s.outbound = msg :: rest)
      (hjson : cfg.toJson msg = .error err) :
      Moves cfg s .outbound { s with outbound := rest }
  | sent (text : String) (hp : s.phase = .sending text) :
      Moves cfg s .sent { s.write (.text text) with phase := .running }
  | sendFailed (text : String) (hp : s.phase = .sending text) :
      Moves cfg s .sendFailed { s with phase := .waiting }
  | inbound (hp : s.phase = .running) : Moves cfg s .inbound s
  | ping (data : List UInt8) (hp : s.phase = .running) : Moves cfg s (.ping data false) s
  | pong (data : List UInt8) (hp : s.phase = .running) :
      Moves cfg s (.ping data true) (s.write (.pong data))
  | closed (hp : s.phase = .running) : Moves cfg s .closed { s with phase := .waiting }
  | slept (hp : s.phase = .waiting) :
      Moves cfg s (.slept s.delay)
        { s with phase := .head, delay := Backoff.double maxReconnectDelay s.delay }

variable {cfg : TaskConfig} {s s' : TaskState} {e : Event} {es : List Event}
  {backlog : List GatewayMessage}

theorem moves_of_step (h : step cfg s e = some s') : Moves cfg s e s' := by
  unfold step at h
  split at h
  case h_1 => cases h
  case h_2 _ msg hp =>
      split at h
      case isTrue room => cases h; exact .enqueue msg hp room
      case isFalse => cases h
  case h_3 hp => cases h; exact .connect hp
  case h_4 b hp => cases h; exact .shutdown b (.inl hp)
  case h_5 b hp => cases h; exact .shutdown b (.inr (.inl hp))
  case h_6 hp => cases h; exact .connectFailed hp
  case h_7 hp => cases h; exact .connected hp
  case h_8 hp =>
      split at h
      case h_1 text hjson => cases h; exact .registerSent text hp hjson
      case h_2 => cases h
  case h_9 hp =>
      split at h
      case h_1 => cases h; exact .registerSendFailed hp
      case h_2 => cases h
  case h_10 hp =>
      split at h
      case h_1 => cases h
      case h_2 => cases h; exact .registerUnserialisable hp
  case h_11 b hp =>
      cases b
      case false => cases h; exact .shutdown false (.inr (.inr hp))
      case true => cases h; exact .shutdownClose hp
  case h_12 hp =>
      split at h
      case h_1 => cases h
      case h_2 msg rest hq =>
          split at h
          case h_1 text hjson => cases h; exact .outbound msg rest text hp hq hjson
          case h_2 err hjson => cases h; exact .unserialisable msg rest err hp hq hjson
  case h_13 text hp => cases h; exact .sent text hp
  case h_14 text hp => cases h; exact .sendFailed text hp
  case h_15 hp => cases h; exact .inbound hp
  case h_16 data ponged hp =>
      cases ponged
      case false => cases h; exact .ping data hp
      case true => cases h; exact .pong data hp
  case h_17 hp => cases h; exact .closed hp
  case h_18 secs hp =>
      split at h
      case isTrue hsecs => cases h; subst hsecs; exact .slept hp
      case isFalse => cases h
  case h_19 => cases h

-- ── The frames of each connection ────────────────────────────────────────────

/-- The first frame of the connection, if any was written, is Register. -/
def RegisterFirst (cfg : TaskConfig) (k : Socket) : Prop :=
  k.frames = [] ∨ ∃ reg rest, cfg.toJson cfg.register = .ok reg ∧ k.frames = .text reg :: rest

/-- The inner loop serves the latest connection. -/
def Phase.Serving (p : Phase) : Prop := p = .running ∨ ∃ text, p = .sending text

/-- What the sockets look like in every reachable state. -/
structure Wire (cfg : TaskConfig) (s : TaskState) : Prop where
  registered : ∀ k ∈ s.sockets, RegisterFirst cfg k
  fresh : s.phase = .connected → ∃ ks url, s.sockets = ks ++ [⟨url, []⟩]
  serving : s.phase.Serving → ∃ ks k, s.sockets = ks ++ [k] ∧ k.frames ≠ []

theorem RegisterFirst.write {k : Socket} (h : RegisterFirst cfg k) (hk : k.frames ≠ [])
    (f : Frame) : RegisterFirst cfg (k.write f) := by
  rcases h with h | ⟨reg, rest, hjson, h⟩
  · exact absurd h hk
  · refine .inr ⟨reg, rest ++ [f], hjson, ?_⟩
    rw [Socket.write, h]
    rfl

/-- Writing while the inner loop runs: the latest connection grows. -/
theorem Wire.write (hw : Wire cfg s) (hp : s.phase.Serving) (f : Frame) : Wire cfg (s.write f) := by
  obtain ⟨ks, k, hks, hk⟩ := hw.serving hp
  have hwrite : (s.write f).sockets = ks ++ [k.write f] := by
    rw [TaskState.write, hks, List.modifyLast_concat]
  refine ⟨?_, ?_, ?_⟩
  · intro k' hk'
    rw [hwrite] at hk'
    rcases List.mem_append.mp hk' with hk' | hk'
    · exact hw.registered k' (hks ▸ List.mem_append_left _ hk')
    · rw [List.mem_singleton.mp hk']
      exact (hw.registered k (by simp [hks])).write hk f
  · intro h
    rw [show (s.write f).phase = s.phase from rfl] at h
    rcases hp with hp | ⟨text, hp⟩ <;> rw [hp] at h <;> cases h
  · intro _
    exact ⟨ks, k.write f, hwrite, by simp [Socket.write]⟩

/-- The phase matters only while a connection is served. -/
theorem Wire.phase (hw : Wire cfg s) {p : Phase} (hfresh : p ≠ .connected)
    (hserving : p.Serving → s.phase.Serving) (d : ℕ) (q : List GatewayMessage) :
    Wire cfg { s with phase := p, delay := d, outbound := q } where
  registered := hw.registered
  fresh h := absurd h hfresh
  serving h := hw.serving (hserving h)

theorem wire_start : Wire cfg (start backlog) where
  registered k hk := by cases hk
  fresh h := by cases h
  serving h := by rcases h with h | ⟨text, h⟩ <;> cases h

theorem Moves.wire (h : Moves cfg s e s') (hw : Wire cfg s) : Wire cfg s' := by
  cases h with
  | enqueue msg hp room => exact ⟨hw.registered, hw.fresh, hw.serving⟩
  | connect hp => exact hw.phase (by simp) (by simp [Phase.Serving]) s.delay s.outbound
  | shutdown b hp => exact hw.phase (by simp) (by simp [Phase.Serving]) s.delay []
  | shutdownClose hp =>
      exact (hw.write (.inl hp) .close).phase (by simp) (by simp [Phase.Serving]) s.delay []
  | connectFailed hp => exact hw.phase (by simp) (by simp [Phase.Serving]) s.delay s.outbound
  | connected hp =>
      refine ⟨?_, fun _ => ⟨s.sockets, cfg.wsUrl, rfl⟩, by simp [Phase.Serving]⟩
      intro k hk
      rcases List.mem_append.mp hk with hk | hk
      · exact hw.registered k hk
      · rw [List.mem_singleton.mp hk]
        exact .inl rfl
  | registerSent text hp hjson =>
      obtain ⟨ks, url, hks⟩ := hw.fresh hp
      have hwrite : (s.write (.text text)).sockets = ks ++ [⟨url, [.text text]⟩] := by
        rw [TaskState.write, hks, List.modifyLast_concat]
        rfl
      refine ⟨?_, by simp, fun _ => ⟨ks, _, hwrite, by simp⟩⟩
      intro k hk
      rw [show TaskState.sockets _ = _ from hwrite] at hk
      rcases List.mem_append.mp hk with hk | hk
      · exact hw.registered k (hks ▸ List.mem_append_left _ hk)
      · rw [List.mem_singleton.mp hk]
        exact .inr ⟨text, [], hjson, rfl⟩
  | registerSendFailed hp => exact hw.phase (by simp) (by simp [Phase.Serving]) s.delay s.outbound
  | registerUnserialisable hp =>
      exact hw.phase (by simp) (by simp [Phase.Serving]) s.delay s.outbound
  | outbound msg rest text hp hq hjson =>
      exact hw.phase (by simp) (fun _ => .inl hp) s.delay rest
  | unserialisable msg rest err hp hq hjson => exact ⟨hw.registered, hw.fresh, hw.serving⟩
  | sent text hp =>
      have hserving : s.phase.Serving := .inr ⟨text, hp⟩
      exact (hw.write hserving (.text text)).phase (by simp) (fun _ => hserving) s.delay s.outbound
  | sendFailed text hp => exact hw.phase (by simp) (by simp [Phase.Serving]) s.delay s.outbound
  | inbound hp => exact hw
  | ping data hp => exact hw
  | pong data hp => exact hw.write (.inl hp) (.pong data)
  | closed hp => exact hw.phase (by simp) (by simp [Phase.Serving]) s.delay s.outbound
  | slept hp => exact hw.phase (by simp) (by simp [Phase.Serving]) _ s.outbound

theorem wire_run (h : run (step cfg) (start backlog) es = some s) : Wire cfg s := by
  refine run_induction (P := fun _ t => Wire cfg t) wire_start ?_ es s h
  intro _ _ t u _ hw hstep
  exact (moves_of_step hstep).wire hw

-- ── What was written, what is in flight, what is queued ──────────────────────

/-- The message an event enqueues. -/
def Event.msg? : Event → Option GatewayMessage
  | .enqueue msg => some msg
  | _ => none

/-- The messages a run enqueues, oldest first. -/
def enqueued (es : List Event) : List GatewayMessage := es.filterMap Event.msg?

/-- The texts written after the first frame of each connection, over all connections in order. -/
def TaskState.delivered (s : TaskState) : List String := s.sockets.flatMap Socket.otherTexts

/-- The text whose `sink.send` is under way. -/
def TaskState.inFlight (s : TaskState) : List String :=
  match s.phase with
  | .sending text => [text]
  | _ => []

/-- Everything the task has written or still has, oldest first. -/
def TaskState.carried (cfg : TaskConfig) (s : TaskState) : List String :=
  s.delivered ++ s.inFlight ++ cfg.texts s.outbound

@[simp] theorem enqueued_concat (es : List Event) (e : Event) :
    enqueued (es ++ [e]) = enqueued es ++ e.msg?.toList := by
  rw [enqueued, List.filterMap_append]
  cases e <;> rfl

@[simp] theorem texts_append (cfg : TaskConfig) (ms ns : List GatewayMessage) :
    cfg.texts (ms ++ ns) = cfg.texts ms ++ cfg.texts ns := List.filterMap_append

@[simp] theorem texts_nil (cfg : TaskConfig) : cfg.texts [] = [] := rfl

theorem texts_cons_ok {msg : GatewayMessage} {text : String} (h : cfg.toJson msg = .ok text)
    (rest : List GatewayMessage) : cfg.texts (msg :: rest) = text :: cfg.texts rest := by
  simp [TaskConfig.texts, h, Except.toOption]

theorem texts_cons_error {msg : GatewayMessage} {err : String} (h : cfg.toJson msg = .error err)
    (rest : List GatewayMessage) : cfg.texts (msg :: rest) = cfg.texts rest := by
  simp [TaskConfig.texts, h, Except.toOption]

theorem otherTexts_write {k : Socket} (hk : k.frames ≠ []) (f : Frame) :
    (k.write f).otherTexts = k.otherTexts ++ f.text?.toList := by
  rw [Socket.otherTexts, Socket.write, List.tail_append_of_ne_nil hk, List.filterMap_append]
  cases f <;> rfl

/-- A frame written in the inner loop adds its text, if it is one. -/
theorem Wire.delivered_write (hw : Wire cfg s) (hp : s.phase.Serving) (f : Frame) :
    (s.write f).delivered = s.delivered ++ f.text?.toList := by
  obtain ⟨ks, k, hks, hk⟩ := hw.serving hp
  rw [TaskState.delivered, TaskState.delivered, TaskState.write, hks, List.modifyLast_concat]
  simp [otherTexts_write hk f]

/-- A connection with no frame but its first adds no text. -/
theorem delivered_of_first {s : TaskState} {ks : List Socket} {k : Socket}
    (hks : s.sockets = ks ++ [k]) (hk : k.frames.length ≤ 1) :
    s.delivered = ks.flatMap Socket.otherTexts := by
  have htail : k.frames.tail = [] := List.eq_nil_of_length_eq_zero (by rw [List.length_tail]; omega)
  simp [TaskState.delivered, hks, Socket.otherTexts, htail]

theorem inFlight_sending {text : String} (hp : s.phase = .sending text) : s.inFlight = [text] := by
  rw [TaskState.inFlight, hp]

theorem inFlight_eq_nil (hp : ∀ text, s.phase ≠ .sending text) : s.inFlight = [] := by
  unfold TaskState.inFlight
  split
  case h_1 text h => exact absurd h (hp text)
  case h_2 => rfl

/-- Nothing in flight before or after, same texts, same queue. -/
theorem carried_quiet (hp : ∀ text, s.phase ≠ .sending text)
    (hp' : ∀ text, s'.phase ≠ .sending text) (hd : s'.delivered = s.delivered)
    (hq : s'.outbound = s.outbound) : s'.carried cfg = s.carried cfg := by
  rw [TaskState.carried, TaskState.carried, inFlight_eq_nil hp, inFlight_eq_nil hp', hd, hq]

/-- A control frame written in the inner loop. -/
theorem Wire.carried_write (hw : Wire cfg s) (hp : s.phase = .running) {f : Frame}
    (hf : f.text? = none) : (s.write f).carried cfg = s.carried cfg := by
  refine carried_quiet (by simp [hp]) (by simp [TaskState.write, hp]) ?_ rfl
  rw [hw.delivered_write (.inl hp), hf]
  exact List.append_nil _

/-- How a step changes what is carried: a sender adds its message at the end, a failed send drops
    the one in flight, a stopping task drops its queue. -/
inductive CarriedBy (cfg : TaskConfig) (s s' : TaskState) : Event → Prop
  | quiet (e : Event) (hmsg : e.msg? = none) (hlost : e ≠ .sendFailed)
      (h : s'.carried cfg = s.carried cfg) : CarriedBy cfg s s' e
  | enqueued (msg : GatewayMessage) (h : s'.carried cfg = s.carried cfg ++ cfg.texts [msg]) :
      CarriedBy cfg s s' (.enqueue msg)
  | lost (a b : List String) (x : String) (h : s.carried cfg = a ++ x :: b)
      (h' : s'.carried cfg = a ++ b) : CarriedBy cfg s s' .sendFailed
  | stopped (b : Bool) (h : (s'.carried cfg).Sublist (s.carried cfg)) :
      CarriedBy cfg s s' (.shutdown b)

theorem carried_stop : (s.stop.carried cfg).Sublist (s.carried cfg) := by
  have hstop : s.stop.carried cfg = s.delivered := by
    rw [TaskState.carried, inFlight_eq_nil (by simp [TaskState.stop])]
    simp [TaskState.stop, TaskState.delivered]
  rw [hstop, TaskState.carried, List.append_assoc]
  exact List.sublist_append_left _ _

theorem Moves.carried (h : Moves cfg s e s') (hw : Wire cfg s) : CarriedBy cfg s s' e := by
  cases h with
  | enqueue msg hp room =>
      refine .enqueued msg ?_
      show s.delivered ++ s.inFlight ++ cfg.texts (s.outbound ++ [msg]) = _
      rw [texts_append, ← List.append_assoc]
      rfl
  | shutdown b hp => exact .stopped b carried_stop
  | shutdownClose hp =>
      refine .stopped true ?_
      rw [← hw.carried_write hp (f := .close) rfl]
      exact carried_stop
  | connected hp =>
      refine .quiet _ rfl (by simp) (carried_quiet (by simp [hp]) (by simp) ?_ rfl)
      exact delivered_of_first rfl (by simp)
  | registerSent text hp hjson =>
      obtain ⟨ks, url, hks⟩ := hw.fresh hp
      refine .quiet _ rfl (by simp) (carried_quiet (by simp [hp]) (by simp) ?_ rfl)
      have hwrite : (s.write (.text text)).sockets = ks ++ [⟨url, [.text text]⟩] := by
        rw [TaskState.write, hks, List.modifyLast_concat]
        rfl
      rw [delivered_of_first hks (by simp)]
      exact delivered_of_first hwrite (by simp)
  | outbound msg rest text hp hq hjson =>
      refine .quiet _ rfl (by simp) ?_
      rw [TaskState.carried, TaskState.carried, inFlight_eq_nil (s := s) (by simp [hp]), hq,
        texts_cons_ok hjson, List.append_nil, List.append_assoc]
      rfl
  | unserialisable msg rest err hp hq hjson =>
      refine .quiet _ rfl (by simp) ?_
      rw [TaskState.carried, TaskState.carried, hq, texts_cons_error hjson]
      rfl
  | sent text hp =>
      refine .quiet _ rfl (by simp) ?_
      have hd := hw.delivered_write (.inr ⟨text, hp⟩) (.text text)
      rw [TaskState.carried, TaskState.carried, inFlight_sending hp, inFlight_eq_nil (by simp),
        List.append_nil]
      exact congrArg (· ++ cfg.texts s.outbound) hd
  | sendFailed text hp =>
      refine .lost s.delivered (cfg.texts s.outbound) text ?_ ?_
      · rw [TaskState.carried, inFlight_sending hp, List.append_assoc]
        rfl
      · rw [TaskState.carried, inFlight_eq_nil (by simp), List.append_nil]
        rfl
  | inbound hp => exact .quiet _ rfl (by simp) rfl
  | ping data hp => exact .quiet _ rfl (by simp) rfl
  | pong data hp => exact .quiet _ rfl (by simp) (hw.carried_write hp rfl)
  | connect hp | connectFailed hp | registerSendFailed hp | registerUnserialisable hp | closed hp
  | slept hp =>
      exact .quiet _ rfl (by simp) (carried_quiet (by simp [hp]) (by simp) rfl rfl)

/-- Everything ever enqueued, as the texts to be written. -/
def enqueuedTexts (cfg : TaskConfig) (backlog : List GatewayMessage) (es : List Event) :
    List String :=
  cfg.texts (backlog ++ enqueued es)

theorem enqueuedTexts_concat (es : List Event) (e : Event) :
    enqueuedTexts cfg backlog (es ++ [e])
      = enqueuedTexts cfg backlog es ++ cfg.texts e.msg?.toList := by
  rw [enqueuedTexts, enqueuedTexts, enqueued_concat, ← List.append_assoc, texts_append]

theorem enqueuedTexts_concat_none {e : Event} (h : e.msg? = none) (es : List Event) :
    enqueuedTexts cfg backlog (es ++ [e]) = enqueuedTexts cfg backlog es := by
  rw [enqueuedTexts_concat, h]
  exact List.append_nil _

theorem carried_start : (start backlog).carried cfg = enqueuedTexts cfg backlog [] := by
  simp [TaskState.carried, TaskState.delivered, TaskState.inFlight, start, enqueuedTexts, enqueued]

/-- No step invents, repeats or reorders a message. -/
theorem CarriedBy.sublist (h : CarriedBy cfg s s' e)
    (hs : (s.carried cfg).Sublist (enqueuedTexts cfg backlog es)) :
    (s'.carried cfg).Sublist (enqueuedTexts cfg backlog (es ++ [e])) := by
  cases h with
  | quiet _ hmsg hlost h =>
      rw [enqueuedTexts_concat_none hmsg, h]
      exact hs
  | enqueued msg h =>
      rw [enqueuedTexts_concat, h]
      exact hs.append_right _
  | lost a b x h h' =>
      rw [enqueuedTexts_concat_none rfl, h']
      rw [h] at hs
      exact ((List.sublist_cons_self x b).append_left a).trans hs
  | stopped b h =>
      rw [enqueuedTexts_concat_none rfl]
      exact h.trans hs

theorem carried_run (h : run (step cfg) (start backlog) es = some s) :
    (s.carried cfg).Sublist (enqueuedTexts cfg backlog es) := by
  refine run_induction (P := fun p t => (t.carried cfg).Sublist (enqueuedTexts cfg backlog p))
    ?_ ?_ es s h
  · rw [carried_start]
  · intro p d t u ht hs hstep
    have hmoves := moves_of_step hstep
    exact (hmoves.carried (wire_run ht)).sublist hs

/-- **The order of the frames.** On every connection the first frame written is Register; what
    follows it, over all connections in order, is a subsequence of the serialised messages in the
    order they were enqueued; so a second Register on a connection is one that was enqueued. -/
theorem frame_order (cfg : TaskConfig) (backlog : List GatewayMessage) (es : List Event)
    (s : TaskState) (h : run (step cfg) (start backlog) es = some s) :
    (∀ k ∈ s.sockets, RegisterFirst cfg k) ∧
    (s.sockets.flatMap Socket.otherTexts).Sublist (enqueuedTexts cfg backlog es) ∧
    ((∀ url reg, cfg.toJson (.register url) = .ok reg → reg ∉ enqueuedTexts cfg backlog es) →
      ∀ k ∈ s.sockets, ∀ url reg, cfg.toJson (.register url) = .ok reg →
        reg ∉ k.otherTexts) := by
  have hsub : (s.sockets.flatMap Socket.otherTexts).Sublist (enqueuedTexts cfg backlog es) := by
    refine List.Sublist.trans ?_ (carried_run h)
    rw [TaskState.carried, List.append_assoc]
    exact List.sublist_append_left _ _
  refine ⟨(wire_run h).registered, hsub, ?_⟩
  intro hno k hk url reg hreg hmem
  exact hno url reg hreg (hsub.subset (List.mem_flatMap.mpr ⟨k, hk, hmem⟩))

/-- `serde_json::to_string` on the two variants of one text each, for texts without escapes. -/
def plainJson : GatewayMessage → Except String String
  | .register url   => .ok ("\x7b\"type\":\"register\",\"server_url\":\"" ++ url ++ "\"\x7d")
  | .connect target => .ok ("\x7b\"type\":\"connect\",\"target\":\"" ++ target ++ "\"\x7d")
  | _ => .error "not a plain message"

/-- A server with its own URL and one gateway. -/
def hamletTask : TaskConfig := ⟨"https://hamlet.local", "wss://gateway.example.com/ws", plainJson⟩

/-- A first connection writes Register and one message; a second one, Register again. -/
theorem frame_order_reconnect :
    ∃ s, run (step hamletTask) (start [.connect "a"])
        [.connect, .connected, .registerSent, .outbound, .sent, .closed, .slept 2, .connect,
          .connected, .registerSent] = some s ∧
      s.sockets.length = 2 ∧ (∀ k ∈ s.sockets, RegisterFirst hamletTask k) := by
  refine ⟨_, rfl, rfl, (frame_order hamletTask [.connect "a"]
    [.connect, .connected, .registerSent, .outbound, .sent, .closed, .slept 2, .connect,
      .connected, .registerSent] _ rfl).1⟩

/-- An enqueued Register is written as a second Register frame of its connection. -/
theorem register_written_twice :
    ¬ ∀ (cfg : TaskConfig) (backlog : List GatewayMessage) (es : List Event) (s : TaskState),
      run (step cfg) (start backlog) es = some s → ∀ k ∈ s.sockets, ∀ reg,
        cfg.toJson cfg.register = .ok reg → k.frames.count (.text reg) ≤ 1 := by
  intro h
  have htwice := h hamletTask [hamletTask.register]
    [.connect, .connected, .registerSent, .outbound, .sent] _ rfl _ List.mem_cons_self _ rfl
  revert htwice
  decide

/-- A message is gone for good once its send has failed: later steps never make up for it. -/
theorem CarriedBy.behind (h : CarriedBy cfg s s' e) (hstop : ∀ b, e ≠ .shutdown b)
    (hs : (s.carried cfg).length < (enqueuedTexts cfg backlog es).length ∨
      e = .sendFailed ∧ (s.carried cfg).length ≤ (enqueuedTexts cfg backlog es).length) :
    (s'.carried cfg).length < (enqueuedTexts cfg backlog (es ++ [e])).length := by
  cases h with
  | quiet _ hmsg hlost h =>
      rw [enqueuedTexts_concat_none hmsg, h]
      exact hs.resolve_right fun hl => hlost hl.1
  | enqueued msg h =>
      rw [enqueuedTexts_concat, h, List.length_append, List.length_append]
      have hlt := hs.resolve_right fun hl => by cases hl.1
      exact Nat.add_lt_add_right hlt _
  | lost a b x h h' =>
      rw [enqueuedTexts_concat_none rfl, h', List.length_append]
      rw [h, List.length_append, List.length_cons] at hs
      rcases hs with hs | ⟨-, hs⟩ <;> omega
  | stopped b h => exact absurd rfl (hstop b)

/-- A run without shutdown: the books balance until the first failed send, and never again. -/
theorem books_run (h : run (step cfg) (start backlog) es = some s)
    (hstop : ∀ b, Event.shutdown b ∉ es) :
    (.sendFailed ∉ es → s.carried cfg = enqueuedTexts cfg backlog es) ∧
    (.sendFailed ∈ es → (s.carried cfg).length < (enqueuedTexts cfg backlog es).length) := by
  revert hstop
  refine run_induction (P := fun p t => (∀ b, Event.shutdown b ∉ p) →
    (.sendFailed ∉ p → t.carried cfg = enqueuedTexts cfg backlog p) ∧
    (.sendFailed ∈ p → (t.carried cfg).length < (enqueuedTexts cfg backlog p).length))
    ?_ ?_ es s h
  · exact fun _ => ⟨fun _ => carried_start, fun hmem => by cases hmem⟩
  · intro p d t u ht ih hstep hstop
    have hd : ∀ b, d ≠ .shutdown b := fun b hb => hstop b (by simp [hb])
    have ih := ih fun b hb => hstop b (List.mem_append_left _ hb)
    have hcarried := (moves_of_step hstep).carried (wire_run ht)
    constructor
    · intro hmem
      have hp := ih.1 fun hm => hmem (List.mem_append_left _ hm)
      cases hcarried with
      | quiet _ hmsg hlost hu => rw [hu, hp, enqueuedTexts_concat_none hmsg]
      | enqueued msg hu =>
          rw [hu, hp, enqueuedTexts_concat]
          rfl
      | lost a b x _ _ => exact absurd (List.mem_append_right _ List.mem_cons_self) hmem
      | stopped b _ => exact absurd rfl (hd b)
    · intro hmem
      refine hcarried.behind hd ?_
      by_cases hp : .sendFailed ∈ p
      · exact .inl (ih.2 hp)
      · refine .inr ⟨?_, (carried_run ht).length_le⟩
        rcases List.mem_append.mp hmem with hm | hm
        · exact absurd hm hp
        · exact (List.mem_singleton.mp hm).symm

/-- **When nothing is lost.** In a run without shutdown, what was written over all connections,
    what is in flight and what is queued make up everything that was enqueued, in every state of
    the run, exactly when no message send of the run fails. -/
theorem delivery_iff_no_sendFailed (cfg : TaskConfig) (backlog : List GatewayMessage)
    (es : List Event) (s : TaskState) (h : run (step cfg) (start backlog) es = some s)
    (hstop : ∀ b, Event.shutdown b ∉ es) :
    (∀ p q, es = p ++ q → ∀ t, run (step cfg) (start backlog) p = some t →
      t.delivered ++ t.inFlight ++ cfg.texts t.outbound = enqueuedTexts cfg backlog p) ↔
    .sendFailed ∉ es := by
  constructor
  · intro hall hmem
    have heq : s.carried cfg = enqueuedTexts cfg backlog es := hall es [] (by simp) s h
    have hlt := (books_run h hstop).2 hmem
    rw [heq] at hlt
    exact absurd hlt (lt_irrefl _)
  · intro hmem p q hes t ht
    refine (books_run ht ?_).1 ?_
    · exact fun b hb => hstop b (hes ▸ List.mem_append_left _ hb)
    · exact fun hp => hmem (hes ▸ List.mem_append_left _ hp)

/-- Two messages over one connection, the second still queued. -/
theorem delivery_two_messages :
    ∃ s, run (step hamletTask) (start [.connect "a", .connect "b"])
        [.connect, .connected, .registerSent, .outbound, .sent] = some s ∧
      s.delivered.length = 1 ∧
      ∀ p q, [Event.connect, .connected, .registerSent, .outbound, .sent] = p ++ q → ∀ t,
        run (step hamletTask) (start [.connect "a", .connect "b"]) p = some t →
        t.delivered ++ t.inFlight ++ hamletTask.texts t.outbound
          = enqueuedTexts hamletTask [.connect "a", .connect "b"] p := by
  refine ⟨_, rfl, rfl, ?_⟩
  refine (delivery_iff_no_sendFailed hamletTask [.connect "a", .connect "b"] _ _ rfl ?_).mpr ?_ <;>
    simp

/-- The message of a failed send is neither written nor queued any more. -/
theorem failed_send_loses_message :
    ¬ ∀ (cfg : TaskConfig) (backlog : List GatewayMessage) (es : List Event) (s : TaskState),
      run (step cfg) (start backlog) es = some s → (∀ b, Event.shutdown b ∉ es) →
      s.delivered ++ s.inFlight ++ cfg.texts s.outbound = enqueuedTexts cfg backlog es := by
  intro h
  have hlost := h hamletTask [.connect "a"]
    [.connect, .connected, .registerSent, .outbound, .sendFailed] _ rfl (by simp)
  revert hlost
  decide

-- ── How connection attempts are spaced ───────────────────────────────────────

theorem initialReconnectDelay_bounds :
    initialReconnectDelay ≤ initialReconnectDelay ∧ initialReconnectDelay ≤ maxReconnectDelay := by
  decide

/-- A stretch of a run with a sleep of at least the initial and at most the maximal delay. -/
def Slept (q : List Event) : Prop :=
  ∃ d, Event.slept d ∈ q ∧ initialReconnectDelay ≤ d ∧ d ≤ maxReconnectDelay

/-- Register could not be serialised or sent. -/
def Event.RegisterFailure (e : Event) : Prop :=
  e = .registerSendFailed ∨ e = .registerUnserialisable

/-- The event is the task's own, not a sender's. -/
def Event.OfTask (e : Event) : Prop := e.msg? = none

/-- The last thing the task did was to fail with Register. -/
def JustFailedToRegister (es : List Event) : Prop :=
  Since Event.RegisterFailure Event.OfTask es

/-- What the history says about the time since the last connection attempt. -/
structure Pace (es : List Event) (s : TaskState) : Prop where
  delay : initialReconnectDelay ≤ s.delay ∧ s.delay ≤ maxReconnectDelay
  dialling : s.phase = .connecting ∨ s.phase = .connected →
    ∃ q, After (· = .connect) es q ∧ ∀ d, Event.slept d ∉ q
  failed : s.phase = .head → JustFailedToRegister es →
    ∃ q, After (· = .connect) es q ∧ ∀ d, Event.slept d ∉ q
  slept : s.phase = .head → ¬ JustFailedToRegister es → ∀ q, After (· = .connect) es q → Slept q

/-- A stretch without a sleep goes on through an event that is neither attempt nor sleep. -/
theorem sleepless_concat (hc : e ≠ .connect) (hs : ∀ d, e ≠ .slept d)
    (h : ∃ q, After (· = .connect) es q ∧ ∀ d, Event.slept d ∉ q) :
    ∃ q, After (· = .connect) (es ++ [e]) q ∧ ∀ d, Event.slept d ∉ q := by
  obtain ⟨q, hq, hd⟩ := h
  refine ⟨q ++ [e], (after_concat_of_neg (A := (· = .connect)) hc).mpr ⟨q, hq, rfl⟩, ?_⟩
  intro d hmem
  rcases List.mem_append.mp hmem with hmem | hmem
  · exact hd d hmem
  · exact hs d (List.mem_singleton.mp hmem).symm

theorem justFailed_concat_enqueue (msg : GatewayMessage) :
    JustFailedToRegister (es ++ [.enqueue msg]) ↔ JustFailedToRegister es :=
  since_concat_of_not (by simp [Event.RegisterFailure]) (by simp [Event.OfTask, Event.msg?])

theorem not_justFailed_concat_slept (d : ℕ) : ¬ JustFailedToRegister (es ++ [.slept d]) := by
  rw [JustFailedToRegister, since_concat]
  simp [Event.RegisterFailure, Event.OfTask, Event.msg?]

/-- Once the task is past dialling, only the delay is left to say. -/
theorem Pace.elsewhere {es' : List Event}
    (hdelay : initialReconnectDelay ≤ s'.delay ∧ s'.delay ≤ maxReconnectDelay)
    (h₁ : s'.phase ≠ .connecting) (h₂ : s'.phase ≠ .connected) (h₃ : s'.phase ≠ .head) :
    Pace es' s' where
  delay := hdelay
  dialling h := absurd h (by simp [h₁, h₂])
  failed h := absurd h h₃
  slept h := absurd h h₃

/-- A failure with Register goes back to the head of the loop without a sleep. -/
theorem Pace.registerFailure (hpace : Pace es s) (hp : s.phase = .connected)
    (he : e.RegisterFailure) : Pace (es ++ [e]) { s with phase := .head } where
  delay := hpace.delay
  dialling h := by simp at h
  failed _ _ := by
    refine sleepless_concat ?_ ?_ (hpace.dialling (.inr hp)) <;>
      rcases he with rfl | rfl <;> simp
  slept _ h := absurd (since_concat.mpr (.inl he)) h

theorem pace_start : Pace [] (start backlog) where
  delay := initialReconnectDelay_bounds
  dialling h := by simp [start] at h
  failed _ h := absurd h not_since_nil
  slept _ _ q hq := absurd hq not_after_nil

theorem Moves.pace (h : Moves cfg s e s') (hpace : Pace es s) : Pace (es ++ [e]) s' := by
  cases h with
  | enqueue msg hp room =>
      refine ⟨hpace.delay, ?_, ?_, ?_⟩
      · intro hdial
        exact sleepless_concat (by simp) (by simp) (hpace.dialling hdial)
      · intro hhead hfail
        exact sleepless_concat (by simp) (by simp)
          (hpace.failed hhead ((justFailed_concat_enqueue msg).mp hfail))
      · intro hhead hfail q hq
        obtain ⟨q', hq', rfl⟩ := (after_concat_of_neg (by simp)).mp hq
        obtain ⟨d, hd, hbounds⟩ :=
          hpace.slept hhead (fun hf => hfail ((justFailed_concat_enqueue msg).mpr hf)) q' hq'
        exact ⟨d, List.mem_append_left _ hd, hbounds⟩
  | connect hp =>
      refine ⟨hpace.delay, ?_, by simp, by simp⟩
      intro _
      exact ⟨[], (after_concat_of_pos (A := (· = Event.connect)) rfl).mpr rfl, by simp⟩
  | connected hp =>
      refine ⟨initialReconnectDelay_bounds, ?_, by simp, by simp⟩
      intro _
      exact sleepless_concat (by simp) (by simp) (hpace.dialling (.inl hp))
  | registerSendFailed hp => exact hpace.registerFailure hp (.inl rfl)
  | registerUnserialisable hp => exact hpace.registerFailure hp (.inr rfl)
  | slept hp =>
      refine ⟨Backoff.double_bounds hpace.delay, by simp, ?_, ?_⟩
      · intro _ hfail
        exact absurd hfail (not_justFailed_concat_slept s.delay)
      · intro _ _ q hq
        obtain ⟨q', -, rfl⟩ := (after_concat_of_neg (by simp)).mp hq
        exact ⟨s.delay, by simp, hpace.delay⟩
  | shutdown b hp | shutdownClose hp | connectFailed hp | registerSent text hp hjson
  | outbound msg rest text hp hq hjson | sent text hp | sendFailed text hp | closed hp =>
      exact .elsewhere hpace.delay (by simp [TaskState.stop]) (by simp [TaskState.stop])
        (by simp [TaskState.stop])
  | unserialisable msg rest err hp hq hjson | inbound hp | ping data hp | pong data hp =>
      exact .elsewhere hpace.delay (by simp [TaskState.write, hp]) (by simp [TaskState.write, hp])
        (by simp [TaskState.write, hp])

theorem pace_run (h : run (step cfg) (start backlog) es = some s) : Pace es s := by
  refine run_induction (P := Pace) pace_start ?_ es s h
  intro p d t u _ hpace hstep
  exact (moves_of_step hstep).pace hpace

/-- **When attempts are spaced.** Between any two consecutive connection attempts of a run the task
    sleeps for at least 2 and at most 60 seconds exactly when no attempt comes straight after a
    failure to serialise or send Register. -/
theorem spaced_connects_iff (cfg : TaskConfig) (backlog : List GatewayMessage) (es : List Event)
    (s : TaskState) (h : run (step cfg) (start backlog) es = some s) :
    Spaced (· = .connect) Slept es ↔
      ∀ p q, es = p ++ .connect :: q → ¬ JustFailedToRegister p := by
  -- an attempt is made at the head of the loop
  have hhead : ∀ p q, es = p ++ .connect :: q → ∃ t, Pace p t ∧ t.phase = .head := by
    intro p q hes
    rw [hes] at h
    obtain ⟨t, u, ht, hu, -⟩ := run_split h
    cases moves_of_step hu with
    | connect hp => exact ⟨t, pace_run ht, hp⟩
  constructor
  · intro hspaced p q hes hfail
    obtain ⟨t, hpace, hp⟩ := hhead p q hes
    obtain ⟨r, hr, hno⟩ := hpace.failed hp hfail
    obtain ⟨d, hd, -⟩ := hspaced p .connect q hes rfl r hr
    exact hno d hd
  · rintro hok p _ q hes rfl r hr
    obtain ⟨t, hpace, hp⟩ := hhead p q hes
    exact hpace.slept hp (hok p q hes) r hr

/-- A refused connection and a lost one, each followed by its sleep. -/
theorem spaced_connects_without_failure :
    Spaced (· = .connect) Slept
      [Event.connect, .connectFailed, .slept 2, .connect, .connected, .registerSent, .closed,
        .slept 2, .connect] := by
  refine (spaced_connects_iff hamletTask [] _ _ rfl).mpr ?_
  intro p q hes hfail
  obtain ⟨e, he, hfailure⟩ := hfail.exists
  have hmem := List.mem_append_left (.connect :: q) he
  rw [← hes] at hmem
  rcases hfailure with rfl | rfl <;> simp at hmem

/-- A peer that accepts the connection and drops it at once is dialled again without a sleep. -/
theorem register_failure_busy_loop :
    ¬ ∀ (cfg : TaskConfig) (backlog : List GatewayMessage) (es : List Event) (s : TaskState),
      run (step cfg) (start backlog) es = some s → Spaced (· = .connect) Slept es := by
  intro h
  have hspaced := h hamletTask [] [.connect, .connected, .registerSendFailed, .connect] _ rfl
  obtain ⟨d, hd, -⟩ := hspaced [.connect, .connected, .registerSendFailed] .connect [] rfl rfl
    [.connected, .registerSendFailed] ⟨[], .connect, rfl, rfl, by simp⟩
  simp at hd

end HamletGatewaySocket
