import Hamlet.Lib.FifoProofs
import Hamlet.Lib.SimulationProofs
import Hamlet.DeadlockProofs
import Hamlet.TimeoutSweepProofs

/-!
# The message loop among its neighbours

`HamletRegistry` runs the message loop alone: a handler is one step, and what arrives is handed to
it. `HamletDeadlock` runs it among the three tasks around it: messages come through the event loop
and the inbound queue, channels through the queue of the handshakes, `register_channel` waits for an
answer or a lock in the middle, and any of the others may move meanwhile.

`emits` says which event of the lone loop a step of the four completes, and `Matches` how the states
correspond: while `register_channel` is under way the lone loop has not got its event yet, and may
still have the sweep that the other one has dropped.

* `tasks_run_loop` — the four tasks refine the message loop, and what stands between it and the
  broker and the handshakes is two queues that lose, double and reorder nothing;
* `silent_found_bounded` — what that gives for the sweep: dropped as often as `select!` likes, it
  finds a silent beacon a bounded number of times;
* `cycle_covers_list` — what the lock gives for the broadcast loop: a cycle works off the list as it
  was when the cycle began, and as it still is.
-/

namespace HamletPipeline

open EventRun HamletDeadlock
open HamletRegistry hiding Event step
open HamletBroadcastTopic (channelsOf FromHandshakes)

-- ── Everything a step can do ─────────────────────────────────────────────────

/-- What each event does, with the guards it has passed and the reaction of the lone loop. -/
inductive Moves (app : App) (useJitter : Bool) (s : State) : Event → State → Prop
  | arrives {msg : MqttMessage} (he : s.eventLoop = .polling)
      (hroom : s.inbound.length < msgCapacity) :
      Moves app useJitter s (.publishArrives msg) { s with inbound := s.inbound ++ [msg] }
  | blocks {msg : MqttMessage} (he : s.eventLoop = .polling)
      (hfull : ¬ s.inbound.length < msgCapacity) :
      Moves app useJitter s (.publishArrives msg) { s with eventLoop := .sending msg }
  | deliver {msg : MqttMessage} (he : s.eventLoop = .sending msg)
      (hroom : s.inbound.length < msgCapacity) :
      Moves app useJitter s .deliver
        { s with eventLoop := .polling, inbound := s.inbound ++ [msg] }
  | transmit {r : HamletSubscription.Request} {rest : List HamletSubscription.Request}
      (he : s.eventLoop = .polling) (hq : s.requests = r :: rest) :
      Moves app useJitter s .transmit { s with requests := rest }
  | pollError {disconnected : Bool} (he : s.eventLoop = .polling) :
      Moves app useJitter s (.pollError disconnected)
        { s with eventLoop := .backingOff
                 requests  := if disconnected then [] else s.requests }
  | backoffOver (he : s.eventLoop = .backingOff) :
      Moves app useJitter s .backoffOver { s with eventLoop := .polling }
  | take {c : Command} {rest : List Command} (hc : s.command = .receiving)
      (hq : s.commands = c :: rest) :
      Moves app useJitter s (.takeCommand none) { s with commands := rest, command := .handing c }
  | refuse {c : Command} {rest : List Command} {err : String} (hc : s.command = .receiving)
      (hq : s.commands = c :: rest) :
      Moves app useJitter s (.takeCommand (some err))
        ({ s with commands := rest }.reply (.error err) c.owner)
  | handOver {c : Command} (hc : s.command = .handing c)
      (hroom : s.requests.length < requestCapacity) :
      Moves app useJitter s .handOver
        ({ s with command := .receiving, requests := s.requests ++ [c.request] }.reply
          (.ok ()) c.owner)
  | channelQueued {c : TopicChannel} (hroom : s.channels.length < channelCapacity) :
      Moves app useJitter s (.channelQueued c) { s with channels := s.channels ++ [c] }
  | receiveChannel {c : TopicChannel} {rest : List TopicChannel} {now : Instant}
      (hr : s.registering = none) (hq : s.channels = c :: rest) :
      Moves app useJitter s (.receiveChannel now)
        { s.dropSweep with registering := some (.enter c now), channels := rest }
  | receiveMessage {msg : MqttMessage} {rest : List MqttMessage} {now : Instant} {loop : LoopState}
      (hr : s.registering = none) (hq : s.inbound = msg :: rest)
      (hloop : HamletRegistry.step app s.loop (.message msg now) = some loop) :
      Moves app useJitter s (.receiveMessage now)
        { s.dropSweep with loop := loop, inbound := rest }
  | tick {now : Instant} {stale : List String} {loop : LoopState} (hr : s.registering = none)
      (hloop : HamletRegistry.step app s.loop (.tick now stale) = some loop) :
      Moves app useJitter s (.tick now stale) { s with loop := loop, call := .sending }
  | sendCommand {request : HamletSubscription.Request} (hcalling : s.calling = some request)
      (hk : s.call = .sending) (hroom : s.commands.length < cmdCapacity) :
      Moves app useJitter s .sendCommand
        { s with call := .awaiting, commands := s.commands ++ [⟨.messageLoop, request⟩] }
  /-- A hybrid channel goes on from its answer to the lock. -/
  | locks {c : TopicChannel} {now : Instant} (hk : s.call = .answered (.ok ()))
      (hr : s.registering = some (.subscribing c now)) (ht : c.topicType = .hybrid) :
      Moves app useJitter s .callAnswered
        { s with registering := some (.locking c now), call := .sending }
  | subscribed {c : TopicChannel} {now : Instant} {answer : Except String Unit} {loop : LoopState}
      (hk : s.call = .answered answer) (hr : s.registering = some (.subscribing c now))
      (hne : c.topicType = .hybrid → answer = .ok () → False)
      (hloop : HamletRegistry.step app s.loop (.channel c now answer) = some loop) :
      Moves app useJitter s .callAnswered
        { s with loop := loop, registering := none, call := .sending }
  | unsubscribed {answer : Except String Unit} {loop : LoopState} (hk : s.call = .answered answer)
      (hr : s.registering = none)
      (hloop : HamletRegistry.step app s.loop (.unsubscribed answer) = some loop) :
      Moves app useJitter s .callAnswered { s with loop := loop, call := .sending }
  | locked {c : TopicChannel} {now : Instant} {loop : LoopState}
      (hfree : s.broadcast.holdsTopics = false) (hr : s.registering = some (.locking c now))
      (hloop : HamletRegistry.step app s.loop (.channel c now (.ok ())) = some loop) :
      Moves app useJitter s .lockTopics
        { s with loop := loop, registering := none, call := .sending }
  | sweepLocked {loop : LoopState} (hfree : s.broadcast.holdsTopics = false)
      (hr : s.registering = none)
      (hloop : HamletRegistry.step app s.loop .topicsLocked = some loop) :
      Moves app useJitter s .lockTopics { s with loop := loop, call := .sending }
  | startCycle (hb : s.broadcast = .resting) :
      Moves app useJitter s .startCycle { s with broadcast := .waitingRead }
  | readTopics (hb : s.broadcast = .waitingRead) (hq : s.queuesWrite = false) :
      Moves app useJitter s .readTopics
        { s with broadcast := .nextTopic useJitter s.loop.registry.broadcastTopics }
  | jitterOver {topic : String} {rest : List String}
      (hb : s.broadcast = .publishing topic rest .jitter) :
      Moves app useJitter s .jitterOver
        { s with broadcast := .publishing topic rest (.calling .sending) }
  | sendPublish {topic : String} {rest : List String}
      (hb : s.broadcast = .publishing topic rest (.calling .sending))
      (hroom : s.commands.length < cmdCapacity) :
      Moves app useJitter s .sendPublish
        { s with broadcast := .publishing topic rest (.calling .awaiting)
                 commands := s.commands ++ [⟨.broadcast, .publish topic⟩] }
  | publishAnswered {topic : String} {rest : List String} {answer : Except String Unit}
      (hb : s.broadcast = .publishing topic rest (.calling (.answered answer))) :
      Moves app useJitter s .publishAnswered { s with broadcast := .nextTopic useJitter rest }
  | endCycle (hb : s.broadcast = .remainder) :
      Moves app useJitter s .endCycle { s with broadcast := .resting }

theorem moves_of_step {app : App} {useJitter : Bool} {s s' : State} {e : Event}
    (h : step app useJitter s e = some s') : Moves app useJitter s e s' := by
  cases e with
  | publishArrives msg =>
      simp only [step] at h
      split at h
      case h_1 he =>
          split at h
          case isTrue hroom => exact Option.some.inj h ▸ .arrives he hroom
          case isFalse hfull => exact Option.some.inj h ▸ .blocks he hfull
      case h_2 => cases h
  | deliver =>
      simp only [step] at h
      split at h
      case h_1 msg he =>
          split at h
          case isTrue hroom => exact Option.some.inj h ▸ .deliver he hroom
          case isFalse => cases h
      case h_2 => cases h
  | transmit =>
      simp only [step] at h
      split at h
      case h_1 he hq => exact Option.some.inj h ▸ .transmit he hq
      case h_2 => cases h
  | pollError disconnected =>
      simp only [step] at h
      split at h
      case h_1 he => exact Option.some.inj h ▸ .pollError he
      case h_2 => cases h
  | backoffOver =>
      simp only [step] at h
      split at h
      case h_1 he => exact Option.some.inj h ▸ .backoffOver he
      case h_2 => cases h
  | takeCommand refused =>
      simp only [step] at h
      split at h
      case h_1 hc hq =>
          cases refused with
          | none => exact Option.some.inj h ▸ .take hc hq
          | some err => exact Option.some.inj h ▸ .refuse hc hq
      case h_2 => cases h
  | handOver =>
      simp only [step] at h
      split at h
      case h_1 c hc =>
          split at h
          case isTrue hroom => exact Option.some.inj h ▸ .handOver hc hroom
          case isFalse => cases h
      case h_2 => cases h
  | channelQueued c =>
      simp only [step] at h
      split at h
      case isTrue hroom => exact Option.some.inj h ▸ .channelQueued hroom
      case isFalse => cases h
  | receiveChannel now =>
      simp only [step] at h
      split at h
      case h_1 hr hq => exact Option.some.inj h ▸ .receiveChannel hr hq
      case h_2 => cases h
  | receiveMessage now =>
      simp only [step] at h
      split at h
      case h_1 hr hq =>
          obtain ⟨loop, hloop, rfl⟩ := Option.map_eq_some_iff.mp h
          exact .receiveMessage hr hq hloop
      case h_2 => cases h
  | tick now stale =>
      simp only [step] at h
      split at h
      case h_1 hr =>
          obtain ⟨loop, hloop, rfl⟩ := Option.map_eq_some_iff.mp h
          exact .tick hr hloop
      case h_2 => cases h
  | sendCommand =>
      simp only [step] at h
      split at h
      case h_1 hcalling hk =>
          split at h
          case isTrue hroom => exact Option.some.inj h ▸ .sendCommand hcalling hk hroom
          case isFalse => cases h
      case h_2 => cases h
  | callAnswered =>
      simp only [step] at h
      split at h
      case h_1 hk hr =>
          split at h
          case h_1 ht => exact Option.some.inj h ▸ .locks hk hr ht
          case h_2 hne =>
              obtain ⟨loop, hloop, rfl⟩ := Option.map_eq_some_iff.mp h
              exact .subscribed hk hr hne hloop
      case h_2 hk hr =>
          obtain ⟨loop, hloop, rfl⟩ := Option.map_eq_some_iff.mp h
          exact .unsubscribed hk hr hloop
      case h_3 => cases h
  | lockTopics =>
      simp only [step] at h
      split at h
      case isTrue => cases h
      case isFalse hfree =>
          have hfree := Bool.eq_false_iff.mpr hfree
          split at h
          case h_1 c now hr =>
              obtain ⟨loop, hloop, rfl⟩ := Option.map_eq_some_iff.mp h
              exact .locked hfree hr hloop
          case h_2 => cases h
          case h_3 hr =>
              obtain ⟨loop, hloop, rfl⟩ := Option.map_eq_some_iff.mp h
              exact .sweepLocked hfree hr hloop
  | startCycle =>
      simp only [step] at h
      split at h
      case h_1 hb => exact Option.some.inj h ▸ .startCycle hb
      case h_2 => cases h
  | readTopics =>
      simp only [step] at h
      split at h
      case h_1 hb =>
          split at h
          case isTrue => cases h
          case isFalse hq => exact Option.some.inj h ▸ .readTopics hb (Bool.eq_false_iff.mpr hq)
      case h_2 => cases h
  | jitterOver =>
      simp only [step] at h
      split at h
      case h_1 hb => exact Option.some.inj h ▸ .jitterOver hb
      case h_2 => cases h
  | sendPublish =>
      simp only [step] at h
      split at h
      case h_1 hb =>
          split at h
          case isTrue hroom => exact Option.some.inj h ▸ .sendPublish hb hroom
          case isFalse => cases h
      case h_2 => cases h
  | publishAnswered =>
      simp only [step] at h
      split at h
      case h_1 hb => exact Option.some.inj h ▸ .publishAnswered hb
      case h_2 => cases h
  | endCycle =>
      simp only [step] at h
      split at h
      case h_1 hb => exact Option.some.inj h ▸ .endCycle hb
      case h_2 => cases h

/-- And whoever has passed the guards can do it. -/
theorem step_of_moves {app : App} {useJitter : Bool} {s s' : State} {e : Event}
    (h : Moves app useJitter s e s') : step app useJitter s e = some s' := by
  cases h with
  | arrives he hroom | deliver he hroom => simp only [step, he, hroom, if_true]
  | blocks he hfull => simp only [step, he, hfull, if_false]
  | transmit he hq => simp only [step, he, hq]
  | pollError he | backoffOver he => simp only [step, he]
  | take hc hq | refuse hc hq => simp only [step, hc, hq]
  | handOver hc hroom => simp only [step, hc, hroom, if_true]
  | channelQueued hroom => simp only [step, hroom, if_true]
  | receiveChannel hr hq => simp only [step, hr, hq]
  | receiveMessage hr hq hloop => simp only [step, hr, hq, hloop, Option.map_some]
  | tick hr hloop => simp only [step, hr, hloop, Option.map_some]
  | sendCommand hcalling hk hroom => simp only [step, hcalling, hk, hroom, if_true]
  | locks hk hr ht => simp only [step, hk, hr, ht]
  | subscribed hk hr hne hloop =>
      simp only [step, hk, hr, State.registered, hloop, Option.map_some]
  | unsubscribed hk hr hloop => simp only [step, hk, hr, hloop, Option.map_some]
  | locked hfree hr hloop =>
      simp only [step, hfree, hr, State.registered, hloop, Option.map_some, Bool.false_eq_true,
        if_false]
  | sweepLocked hfree hr hloop =>
      simp only [step, hfree, hr, hloop, Option.map_some, Bool.false_eq_true, if_false]
  | startCycle hb | jitterOver hb | publishAnswered hb | endCycle hb => simp only [step, hb]
  | readTopics hb hq => simp only [step, hb, hq, Bool.false_eq_true, if_false]
  | sendPublish hb hroom => simp only [step, hb, hroom, if_true]

-- ── What goes in, and what is on its way ─────────────────────────────────────

/-- The messages that a run of the message loop handles. -/
def messagesOf (es : List HamletRegistry.Event) : List MqttMessage :=
  es.filterMap fun
    | .message msg _ => some msg
    | _ => none

/-- The messages that the broker delivers in a run. -/
def arrivals (es : List Event) : List MqttMessage :=
  es.filterMap fun
    | .publishArrives msg => some msg
    | _ => none

/-- The channels that handshakes put into the queue in a run. -/
def queuedChannels (es : List Event) : List TopicChannel :=
  es.filterMap fun
    | .channelQueued c => some c
    | _ => none

/-- The message that waits for room in the inbound queue. -/
def heldBack : EventLoop → List MqttMessage
  | .sending msg => [msg]
  | _            => []

/-- The messages between the broker and the message loop, oldest first. -/
def inFlight (s : State) : List MqttMessage := s.inbound ++ heldBack s.eventLoop

def channelOf : Registering → TopicChannel
  | .subscribing c _ => c
  | .locking c _     => c

/-- The channels that are not registered yet, the one under way first. -/
def unregistered (s : State) : List TopicChannel :=
  (s.registering.map channelOf).toList ++ s.channels

-- ── The events of the lone loop ──────────────────────────────────────────────

/-- The event of the message loop that a step completes. -/
def emits (s : State) : Event → List HamletRegistry.Event
  | .receiveMessage now => (s.inbound.head?.map fun msg => .message msg now).toList
  | .tick now stale => [.tick now stale]
  | .callAnswered =>
      match s.call, s.registering with
      | .answered answer, some (.subscribing c now) =>
          match c.topicType, answer with
          -- a hybrid channel goes on to the lock
          | .hybrid, .ok () => []
          | _, _ => [.channel c now answer]
      | .answered answer, none => [.unsubscribed answer]
      | _, _ => []
  | .lockTopics =>
      match s.registering with
      | some (.locking c now) => [.channel c now (.ok ())]
      | some (.subscribing ..) => []
      | none => [.topicsLocked]
  | _ => []

/-- The run of the message loop that a run of the four tasks contains. -/
def loopEvents (app : App) (useJitter : Bool) (es : List Event) : List HamletRegistry.Event :=
  Simulation.image (step app useJitter) emits (.init app) es

/-- The lone loop is where the message loop is, or where it was before it received the channel. -/
structure Matches (s : State) (l : LoopState) : Prop where
  registry    : l.registry = s.loop.registry
  connections : l.connections = s.loop.connections
  sweep       : s.registering = none → l.sweep = s.loop.sweep

section Steps

variable {app : App} {useJitter : Bool} {s s' : State} {e : Event} {l : LoopState}

theorem Matches.eq_loop (h : Matches s l) (hr : s.registering = none) : l = s.loop := by
  obtain ⟨reg, fut, conns⟩ := l
  obtain ⟨hreg, hconns, hsweep⟩ := h
  cases hreg
  cases hconns
  cases hsweep hr
  rfl

theorem matches_loop (s : State) : Matches s s.loop := ⟨rfl, rfl, fun _ => rfl⟩

/-- The queues in front of the message loop hold no more than their capacity. -/
structure WithinCapacity (s : State) : Prop where
  inbound  : s.inbound.length ≤ msgCapacity
  channels : s.channels.length ≤ channelCapacity

/-- What one step does to all that is on its way, and to the lone loop. -/
structure Passes (app : App) (s : State) (e : Event) (s' : State) : Prop where
  capacity : WithinCapacity s → WithinCapacity s'
  messages : inFlight s ++ arrivals [e] = messagesOf (emits s e) ++ inFlight s'
  channels : unregistered s ++ queuedChannels [e] = channelsOf (emits s e) ++ unregistered s'
  loop     : ∀ l, Matches s l →
    ∃ l', run (HamletRegistry.step app) l (emits s e) = some l' ∧ Matches s' l'

/-- A step of one of the other tasks. -/
theorem passes_elsewhere (hemits : emits s e = []) (hcap : WithinCapacity s → WithinCapacity s')
    (hloop : s'.loop = s.loop) (hr : s'.registering = s.registering)
    (hm : inFlight s' = inFlight s ++ arrivals [e])
    (hc : unregistered s' = unregistered s ++ queuedChannels [e]) : Passes app s e s' where
  capacity := hcap
  messages := by rw [hemits, hm]; rfl
  channels := by rw [hemits, hc]; rfl
  loop l hl := by
    rw [hemits]
    refine ⟨l, rfl, ?_, ?_, ?_⟩
    · rw [hl.registry, hloop]
    · rw [hl.connections, hloop]
    · rw [hr, hloop]
      exact hl.sweep

/-- Nothing of what the message loop has, or is about to get, differs. -/
structure Untouched (s s' : State) : Prop where
  loop        : s'.loop = s.loop
  registering : s'.registering = s.registering
  inbound     : s'.inbound = s.inbound
  heldBack    : heldBack s'.eventLoop = heldBack s.eventLoop
  channels    : s'.channels = s.channels

/-- A step that is none of the message loop's business. -/
theorem Untouched.passes (h : Untouched s s') (hemits : emits s e = []) (harr : arrivals [e] = [])
    (hqueued : queuedChannels [e] = []) : Passes app s e s' := by
  refine passes_elsewhere hemits ?_ h.loop h.registering ?_ ?_
  · intro hcap
    refine ⟨?_, ?_⟩
    · rw [h.inbound]
      exact hcap.inbound
    · rw [h.channels]
      exact hcap.channels
  · rw [inFlight, h.inbound, h.heldBack, harr, List.append_nil, inFlight]
  · rw [unregistered, h.registering, h.channels, hqueued, List.append_nil, unregistered]

/-- The answer of a command reaches its caller, and nobody else. -/
theorem untouched_reply (answer : Except String Unit) (o : Owner) :
    Untouched s (s.reply answer o) := by
  cases o with
  | messageLoop | broadcast | dropped => exact ⟨rfl, rfl, rfl, rfl, rfl⟩

/-- A step of the message loop that completes an event in the `select!`. -/
theorem loop_of_selecting {x : HamletRegistry.Event} (hr : s.registering = none)
    (hx : HamletRegistry.step app s.loop x = some s'.loop) (hl : Matches s l) :
    ∃ l', run (HamletRegistry.step app) l [x] = some l' ∧ Matches s' l' := by
  obtain rfl := hl.eq_loop hr
  exact ⟨s'.loop, by rw [run_singleton]; exact hx, matches_loop s'⟩

/-- A channel is registered whatever became of the sweep. -/
theorem loop_of_registered {c : TopicChannel} {now : Instant} {answer : Except String Unit}
    (hx : HamletRegistry.step app s.loop (.channel c now answer) = some s'.loop)
    (hl : Matches s l) :
    ∃ l', run (HamletRegistry.step app) l [.channel c now answer] = some l' ∧ Matches s' l' := by
  refine ⟨s'.loop, ?_, matches_loop s'⟩
  rw [run_singleton, ← hx]
  simp only [HamletRegistry.step, hl.registry, hl.connections]

/-- `register_channel` returns. -/
theorem passes_registered {c : TopicChannel} {now : Instant} {answer : Except String Unit}
    {loop : LoopState} (hemits : emits s e = [.channel c now answer]) (harr : arrivals [e] = [])
    (hqueued : queuedChannels [e] = []) (hr : s.registering.map channelOf = some c)
    (hloop : HamletRegistry.step app s.loop (.channel c now answer) = some loop) :
    Passes app s e { s with loop := loop, registering := none, call := .sending } := by
  refine ⟨fun hcap => ⟨hcap.inbound, hcap.channels⟩, ?_, ?_, ?_⟩
  · rw [hemits, harr, List.append_nil]
    rfl
  · rw [hemits, hqueued, List.append_nil, unregistered, hr]
    rfl
  · intro l hl
    rw [hemits]
    exact loop_of_registered hloop hl

/-- The sweep goes on. -/
theorem passes_sweep {x : HamletRegistry.Event} {loop : LoopState} (hemits : emits s e = [x])
    (hx : x.dropsSweep = false) (harr : arrivals [e] = []) (hqueued : queuedChannels [e] = [])
    (hr : s.registering = none) (hloop : HamletRegistry.step app s.loop x = some loop) :
    Passes app s e { s with loop := loop, call := .sending } := by
  have hmsgs : messagesOf [x] = [] := by
    cases x with
    | message msg now => cases hx
    | channel c now answer | tick now stale | unsubscribed answer | topicsLocked => rfl
  have hchans : channelsOf [x] = [] := HamletBroadcastTopic.channelsOf_sweep hx []
  refine ⟨fun hcap => ⟨hcap.inbound, hcap.channels⟩, ?_, ?_, ?_⟩
  · rw [hemits, hmsgs, harr, List.append_nil]
    rfl
  · rw [hemits, hchans, hqueued, List.append_nil]
    rfl
  · intro l hl
    rw [hemits]
    exact loop_of_selecting hr hloop hl

/-- A channel is received: the sweep is dropped, and nothing is registered yet. -/
theorem passes_receiveChannel {c : TopicChannel} {rest : List TopicChannel} {now : Instant}
    (hr : s.registering = none) (hq : s.channels = c :: rest) :
    Passes app s (.receiveChannel now)
      { s.dropSweep with registering := some (.enter c now), channels := rest } where
  capacity hcap := by
    refine ⟨hcap.inbound, ?_⟩
    have hlen := hcap.channels
    rw [hq, List.length_cons] at hlen
    exact Nat.le_of_succ_le hlen
  messages := List.append_nil _
  channels := by
    have hc : channelOf (.enter c now) = c := by
      cases ht : c.topicType <;> simp [Registering.enter, ht, channelOf]
    simp only [unregistered, hr, hq, Option.map_none, Option.map_some, Option.toList_none,
      Option.toList_some, hc]
    exact List.append_nil _
  loop l hl := ⟨l, rfl, hl.registry, hl.connections, fun h => by cases h⟩

/-- A message is received: the sweep is dropped, and the message is handled at once. -/
theorem passes_receiveMessage {msg : MqttMessage} {rest : List MqttMessage} {now : Instant}
    {loop : LoopState} (hr : s.registering = none) (hq : s.inbound = msg :: rest)
    (hloop : HamletRegistry.step app s.loop (.message msg now) = some loop) :
    Passes app s (.receiveMessage now) { s.dropSweep with loop := loop, inbound := rest } := by
  have hemits : emits s (.receiveMessage now) = [.message msg now] := by
    rw [emits, hq]
    rfl
  refine ⟨?_, ?_, ?_, ?_⟩
  · intro hcap
    refine ⟨?_, hcap.channels⟩
    have hlen := hcap.inbound
    rw [hq, List.length_cons] at hlen
    exact Nat.le_of_succ_le hlen
  · rw [hemits, inFlight, hq]
    exact List.append_nil _
  · rw [hemits]
    exact List.append_nil _
  · intro l hl
    rw [hemits]
    exact loop_of_selecting hr hloop hl

/-- A hybrid channel goes on from its answer to the lock. -/
theorem passes_locks {c : TopicChannel} {now : Instant} (hs : s.call = .answered (.ok ()))
    (hr : s.registering = some (.subscribing c now)) (ht : c.topicType = .hybrid) :
    Passes app s .callAnswered
      { s with registering := some (.locking c now), call := .sending } := by
  have hemits : emits s .callAnswered = [] := by simp only [emits, hs, hr, ht]
  refine ⟨fun hcap => ⟨hcap.inbound, hcap.channels⟩, ?_, ?_, ?_⟩
  · rw [hemits]
    exact List.append_nil _
  · rw [hemits, unregistered, hr]
    exact List.append_nil _
  · intro l hl
    rw [hemits]
    exact ⟨l, rfl, hl.registry, hl.connections, fun h => by cases h⟩

/-- **The step lemma.** No step loses, doubles or overtakes anything on its way to the message loop,
    and the message loop reacts as if it were alone. -/
theorem passes_of_moves (h : Moves app useJitter s e s') : Passes app s e s' := by
  cases h with
  | arrives he hroom =>
      refine passes_elsewhere rfl (fun hcap => ⟨?_, hcap.channels⟩) rfl rfl ?_
        (List.append_nil _).symm
      · rw [List.length_append]
        exact hroom
      · simp [inFlight, he, heldBack, arrivals]
  | blocks he hfull =>
      refine passes_elsewhere rfl (fun hcap => ⟨hcap.inbound, hcap.channels⟩) rfl rfl ?_
        (List.append_nil _).symm
      simp [inFlight, he, heldBack, arrivals]
  | deliver he hroom =>
      refine passes_elsewhere rfl (fun hcap => ⟨?_, hcap.channels⟩) rfl rfl ?_
        (List.append_nil _).symm
      · rw [List.length_append]
        exact hroom
      · simp [inFlight, he, heldBack, arrivals]
  | channelQueued hroom =>
      refine passes_elsewhere rfl (fun hcap => ⟨hcap.inbound, ?_⟩) rfl rfl
        (List.append_nil _).symm ?_
      · rw [List.length_append]
        exact hroom
      · simp [unregistered, queuedChannels]
  | receiveChannel hr hq => exact passes_receiveChannel hr hq
  | receiveMessage hr hq hloop => exact passes_receiveMessage hr hq hloop
  | tick hr hloop => exact passes_sweep rfl rfl rfl rfl hr hloop
  | unsubscribed hk hr hloop =>
      exact passes_sweep (by simp only [emits, hk, hr]) rfl rfl rfl hr hloop
  | sweepLocked hfree hr hloop => exact passes_sweep (by simp only [emits, hr]) rfl rfl rfl hr hloop
  | locks hk hr ht => exact passes_locks hk hr ht
  | subscribed hk hr hne hloop =>
      refine passes_registered ?_ rfl rfl (by rw [hr]; rfl) hloop
      simp only [emits, hk, hr]
  | locked hfree hr hloop =>
      refine passes_registered ?_ rfl rfl (by rw [hr]; rfl) hloop
      simp only [emits, hr]
  | refuse hc hq | handOver hc hroom =>
      obtain ⟨hl, hr, hi, hh, hc⟩ := untouched_reply _ _
      exact Untouched.passes ⟨hl, hr, hi, hh, hc⟩ rfl rfl rfl
  | pollError he | backoffOver he =>
      exact Untouched.passes ⟨rfl, rfl, rfl, by rw [he]; rfl, rfl⟩ rfl rfl rfl
  | transmit _ _ | take _ _ | sendCommand _ _ _ | startCycle _ | readTopics _ _ | jitterOver _
  | sendPublish _ _ | publishAnswered _ | endCycle _ =>
      exact Untouched.passes ⟨rfl, rfl, rfl, rfl, rfl⟩ rfl rfl rfl

theorem passes_of_step (h : step app useJitter s e = some s') : Passes app s e s' :=
  passes_of_moves (moves_of_step h)

-- ── Whole runs ───────────────────────────────────────────────────────────────

/-- The four tasks refine the message loop. -/
theorem tasks_refine (app : App) (useJitter : Bool) :
    Simulation.Refines (step app useJitter) (HamletRegistry.step app) emits Matches :=
  fun _ _ _ l hl hstep => (passes_of_step hstep).loop l hl

theorem messagesOf_append (p q : List HamletRegistry.Event) :
    messagesOf (p ++ q) = messagesOf p ++ messagesOf q := List.filterMap_append

/-- Everything that came in was handled or is on its way, in the order in which it came. -/
structure Conveyed (app : App) (useJitter : Bool) (s : State) (es : List Event) (t : State) :
    Prop where
  capacity : WithinCapacity s → WithinCapacity t
  messages : Fifo.Accounted (inFlight s) (arrivals es)
    (messagesOf (Simulation.image (step app useJitter) emits s es)) (inFlight t)
  channels : Fifo.Accounted (unregistered s) (queuedChannels es)
    (channelsOf (Simulation.image (step app useJitter) emits s es)) (unregistered t)

theorem conveyed_run {es : List Event} {t : State} (h : run (step app useJitter) s es = some t) :
    Conveyed app useJitter s es t := by
  refine run_induction (P := Conveyed app useJitter s) ?_ ?_ es t h
  · exact ⟨id, .start _, .start _⟩
  · intro es e t u hrun hcon hstep
    have hpass := passes_of_step hstep
    have harr : arrivals (es ++ [e]) = arrivals es ++ arrivals [e] := List.filterMap_append
    have hqueued : queuedChannels (es ++ [e]) = queuedChannels es ++ queuedChannels [e] :=
      List.filterMap_append
    refine ⟨fun hcap => hpass.capacity (hcon.capacity hcap), ?_, ?_⟩
    · rw [Simulation.image_concat hrun hstep, messagesOf_append, harr]
      exact (hcon.messages.send _).pass hpass.messages
    · rw [Simulation.image_concat hrun hstep, HamletBroadcastTopic.channelsOf_append, hqueued]
      exact (hcon.channels.send _).pass hpass.channels

theorem WithinCapacity.length_le (h : WithinCapacity s) :
    (inFlight s).length ≤ msgCapacity + 1 ∧ (unregistered s).length ≤ channelCapacity + 1 := by
  constructor
  · have hheld : (heldBack s.eventLoop).length ≤ 1 := by
      cases s.eventLoop with
      | polling | sending msg | backingOff => simp [heldBack]
    rw [inFlight, List.length_append]
    exact Nat.add_le_add h.inbound hheld
  · rw [unregistered, List.length_append, Nat.add_comm]
    exact Nat.add_le_add h.channels Option.length_toList_le

end Steps

/-- **The four tasks run the message loop.** Every interleaving of the event loop, the command task,
    the message loop and the broadcast loop contains a run of the message loop alone that ends in the
    same registry and has made the same connections. The loop has handled the messages in the order
    in which they arrived and registered the channels in the order in which they were queued, each
    once, and all of them but those on their way, of which the queues hold a bounded number. -/
theorem tasks_run_loop (app : App) (useJitter : Bool) (es : List Event) (s : State)
    (h : tasksRun app useJitter es = some s) :
    ∃ l, loopRun app (loopEvents app useJitter es) = some l ∧
      l.registry = s.loop.registry ∧ l.connections = s.loop.connections ∧
      (s.registering = none → l = s.loop) ∧
      arrivals es = messagesOf (loopEvents app useJitter es) ++ inFlight s ∧
      queuedChannels es = channelsOf (loopEvents app useJitter es) ++ unregistered s ∧
      (inFlight s).length ≤ msgCapacity + 1 ∧ (unregistered s).length ≤ channelCapacity + 1 := by
  obtain ⟨l, hl, hmatch⟩ := (tasks_refine app useJitter).run (matches_loop _) es s h
  have hcon := conveyed_run h
  exact ⟨l, hl, hmatch.registry, hmatch.connections, hmatch.eq_loop, hcon.messages, hcon.channels,
    (hcon.capacity ⟨Nat.zero_le _, Nat.zero_le _⟩).length_le⟩

/-- A beacon is registered while its first message waits, and a second message comes in. -/
def firstContact : List Event :=
  [.channelQueued (listenChannel "b1"), .receiveChannel 0,
    .publishArrives { topic := "b1/rec", payload := .raw "1" }, .sendCommand, .takeCommand none,
    .handOver, .callAnswered, .receiveMessage 1,
    .publishArrives { topic := "b1/rec", payload := .raw "2" }]

theorem tasks_run_loop_firstContact :
    ∃ s l, tasksRun node true firstContact = some s ∧
      loopRun node (loopEvents node true firstContact) = some l ∧
      arrivals firstContact = messagesOf (loopEvents node true firstContact) ++ inFlight s ∧
      (messagesOf (loopEvents node true firstContact)).length = 1 ∧ (inFlight s).length = 1 := by
  obtain ⟨l, hl, -, -, -, hm, -⟩ := tasks_run_loop node true firstContact _ rfl
  exact ⟨_, l, rfl, hl, hm, rfl, rfl⟩

-- ── Sweeps that are dropped ──────────────────────────────────────────────────

/-- A tick of the timer finds the beacon silent. -/
def findsSilent (id : String) : Event → Bool
  | .tick _ stale => decide (id ∈ stale)
  | _             => false

/-- The beacons that a sweep may have to take out before it gets to a certain one: those in the map,
    and those whose channels are on their way. -/
def load (s : State) : ℕ := s.loop.registry.records.keys.card + (unregistered s).length

theorem findsSilent_le_found (s : State) (e : Event) (id : String) :
    (findsSilent id e).toNat ≤ ((emits s e).map HamletTimeoutSweep.found).sum := by
  cases e with
  | tick now stale =>
      cases stale with
      | nil => exact Nat.zero_le _
      | cons id' rest => exact Bool.toNat_le _
  | _ => exact Nat.zero_le _

theorem countP_findsSilent_le {app : App} {useJitter : Bool} {s t : State} {es : List Event}
    (h : run (step app useJitter) s es = some t) (id : String) :
    es.countP (findsSilent id) ≤
      ((Simulation.image (step app useJitter) emits s es).map HamletTimeoutSweep.found).sum := by
  refine run_induction (P := fun es _ => es.countP (findsSilent id) ≤
    ((Simulation.image (step app useJitter) emits s es).map HamletTimeoutSweep.found).sum)
    (Nat.le_refl _) ?_ es t h
  intro es e t u hrun ih hstep
  have hone : [e].countP (findsSilent id) = (findsSilent id e).toNat := by
    cases hf : findsSilent id e <;> simp [hf]
  rw [Simulation.image_concat hrun hstep, List.countP_append, List.map_append, List.sum_append,
    hone]
  exact Nat.add_le_add ih (findsSilent_le_found t e id)

/-- **Silence is not overlooked for ever.** `select!` may drop every sweep at its first await; still,
    in every interleaving of the four tasks from any state on, the ticks that find a given beacon
    silent are bounded by the beacons there are and the channels that come in, and every one of them
    leaves less to do. -/
theorem silent_found_bounded (app : App) (useJitter : Bool) (s t : State) (es : List Event)
    (h : run (step app useJitter) s es = some t) (id : String) :
    es.countP (findsSilent id) + load t ≤ load s + (queuedChannels es).length := by
  obtain ⟨l, hl, hmatch⟩ := (tasks_refine app useJitter).run (matches_loop s) es t h
  have hfound := HamletTimeoutSweep.found_run hl
  have hcount := countP_findsSilent_le h id
  have hchannels := congrArg List.length (conveyed_run h).channels
  rw [List.length_append, List.length_append] at hchannels
  rw [hmatch.registry] at hfound
  rw [load, load]
  omega

/-- Two beacons are registered. -/
def twoBeacons : List Event :=
  [.channelQueued (listenChannel "b1"), .channelQueued (listenChannel "b2")] ++ subscribing ++
    subscribing

/-- Both fall silent; a message drops the sweep that has just taken the first one out, and the next
    tick finds the second one again. -/
def overlooked : List Event :=
  [.tick (121 * 10 ^ 9) ["b1", "b2"],
    .publishArrives { topic := "registration", payload := .raw "" }, .receiveMessage (121 * 10 ^ 9),
    .tick (121 * 10 ^ 9) ["b2"]]

theorem silent_found_bounded_overlooked :
    ∃ s t, tasksRun node true twoBeacons = some s ∧
      run (step node true) s overlooked = some t ∧
      overlooked.countP (findsSilent "b2") = 2 ∧ load s = 2 ∧
      overlooked.countP (findsSilent "b2") + load t ≤ load s := by
  obtain ⟨s, hs, hload⟩ : ∃ s, tasksRun node true twoBeacons = some s ∧ load s = 2 :=
    ⟨_, rfl, rfl⟩
  obtain ⟨t, ht⟩ : ∃ t, run (step node true) s overlooked = some t := by
    obtain rfl := Option.some.inj hs
    exact ⟨_, rfl⟩
  exact ⟨s, t, hs, ht, rfl, hload, silent_found_bounded node true s t overlooked ht "b2"⟩

-- ── A cycle and the list it has read ─────────────────────────────────────────

/-- The event changes the topic list, under its write lock. -/
def writesTopics : HamletRegistry.Event → Bool
  | .channel c _ answer =>
      match c.topicType, answer with
      | .broadcast, _ => true
      | .hybrid, .ok () => true
      | _, _ => false
  | .topicsLocked => true
  | _ => false

theorem broadcastTopics_sweepNext (ids : List String) (reg : BeaconRegistry) :
    (sweepNext reg ids).1.broadcastTopics = reg.broadcastTopics := by
  induction ids generalizing reg with
  | nil => rfl
  | cons id rest ih =>
      rw [sweepNext]
      cases reg.record? id with
      | none => exact ih reg
      | some r =>
          simp only []
          split
          · rfl
          · split
            · rfl
            · rw [ih, BeaconRegistry.broadcastTopics_evictGateway]
              rfl

/-- Every other event leaves the list alone. -/
theorem broadcastTopics_of_step {app : App} {l l' : LoopState} {x : HamletRegistry.Event}
    (h : HamletRegistry.step app l x = some l') (hx : writesTopics x = false) :
    l'.registry.broadcastTopics = l.registry.broadcastTopics := by
  cases x with
  | channel c now answer =>
      rw [step_channel h]
      simp only [writesTopics] at hx
      simp only [BeaconRegistry.registerChannel]
      cases ht : c.topicType with
      | broadcast => simp [ht] at hx
      | listen => cases answer <;> simp
      | hybrid =>
          cases answer with
          | error e => simp
          | ok u => simp [ht] at hx
  | message msg now =>
      rw [step_message h]
      exact (HamletBroadcastTopic.onMessage_topics app l.registry l.connections msg now).1
  | tick now stale =>
      obtain ⟨-, ⟨-, stale', heq⟩ | ⟨id, r, rest, hfut, -⟩ | ⟨id, r, rest, hfut, -⟩⟩ :=
        step_sweep h rfl
      · rw [show l'.registry = (sweepNext l.registry stale').1 from congrArg Prod.fst heq]
        exact broadcastTopics_sweepNext stale' _
      · simp [HamletRegistry.step, hfut] at h
      · simp [HamletRegistry.step, hfut] at h
  | unsubscribed answer =>
      obtain ⟨-, ⟨hfut, -⟩ | ⟨id, r, rest, -, heq⟩ | ⟨id, r, rest, hfut, -⟩⟩ := step_sweep h rfl
      · simp [HamletRegistry.step, hfut] at h
      · rw [show l'.registry = (afterUnsubscribe l.registry id r rest).1 from congrArg Prod.fst heq,
          afterUnsubscribe]
        split
        · rfl
        · rw [broadcastTopics_sweepNext, BeaconRegistry.broadcastTopics_evictGateway]
      · simp [HamletRegistry.step, hfut] at h
  | topicsLocked => cases hx

theorem broadcastTopics_of_run {app : App} {l l' : LoopState} {xs : List HamletRegistry.Event}
    (h : run (HamletRegistry.step app) l xs = some l') (hxs : ∀ x ∈ xs, writesTopics x = false) :
    l'.registry.broadcastTopics = l.registry.broadcastTopics := by
  induction xs generalizing l with
  | nil =>
      obtain rfl := Option.some.inj h
      rfl
  | cons x xs ih =>
      obtain ⟨l₁, hx, hrest⟩ := Option.bind_eq_some_iff.mp h
      rw [ih hrest fun y hy => hxs y (List.mem_cons_of_mem x hy)]
      exact broadcastTopics_of_step hx (hxs x List.mem_cons_self)

/-- Only what has something to subscribe to awaits the answer of a subscribe call. -/
def Entered (s : State) : Prop :=
  ∀ c now, s.registering = some (.subscribing c now) → c.topicType ≠ .broadcast

section Cycle

variable {app : App} {useJitter : Bool} {s s' : State} {e : Event}

theorem topicType_of_enter {c c' : TopicChannel} {now now' : Instant}
    (h : Registering.enter c now = .subscribing c' now') : c'.topicType ≠ .broadcast := by
  rw [Registering.enter] at h
  split at h
  case h_1 => cases h
  case h_2 hne =>
      obtain ⟨rfl, -⟩ := Registering.subscribing.inj h
      exact hne

theorem entered_step (h : step app useJitter s e = some s') (hs : Entered s) : Entered s' := by
  cases moves_of_step h with
  | receiveChannel hr hq =>
      intro c now hc
      exact topicType_of_enter (Option.some.inj hc)
  | refuse hc hq | handOver hc hroom =>
      intro c now hc
      rw [(untouched_reply _ _).registering] at hc
      exact hs c now hc
  | locks hk hr ht => exact fun c now hc => by cases hc
  | subscribed hk hr hne hloop => exact fun c now hc => by cases hc
  | locked hfree hr hloop => exact fun c now hc => by cases hc
  | arrives _ _ | blocks _ _ | deliver _ _ | transmit _ _ | pollError _ | backoffOver _ | take _ _
  | channelQueued _ | receiveMessage _ _ _ | tick _ _ | unsubscribed _ _ _ | sweepLocked _ _ _
  | sendCommand _ _ _ | startCycle _ | readTopics _ _ | jitterOver _ | sendPublish _ _
  | publishAnswered _ | endCycle _ => exact hs

theorem entered_run {es : List Event} (h : tasksRun app useJitter es = some s) : Entered s :=
  run_induction (P := fun _ s => Entered s) (fun _ _ hc => by cases hc)
    (fun _ _ _ _ _ hs hstep => entered_step hstep hs) es s h

/-- A channel that is registered with the answer of its subscribe call does not touch the list. -/
theorem writesTopics_channel {c : TopicChannel} {now : Instant} {answer : Except String Unit}
    (hnb : c.topicType ≠ .broadcast) (hne : c.topicType = .hybrid → answer = .ok () → False) :
    writesTopics (.channel c now answer) = false := by
  cases ht : c.topicType with
  | listen => simp [writesTopics, ht]
  | broadcast => exact absurd ht hnb
  | hybrid =>
      cases answer with
      | error e => simp [writesTopics, ht]
      | ok u => exact (hne ht rfl).elim

/-- The list is written under its lock only. -/
theorem writesTopics_emits (hs : Entered s) (he : e ≠ .lockTopics) :
    ∀ x ∈ emits s e, writesTopics x = false := by
  intro x hx
  cases e with
  | lockTopics => exact absurd rfl he
  | tick now stale =>
      obtain rfl := List.mem_singleton.mp hx
      rfl
  | receiveMessage now =>
      obtain ⟨msg, -, rfl⟩ := Option.map_eq_some_iff.mp (Option.mem_toList.mp hx)
      rfl
  | callAnswered =>
      simp only [emits] at hx
      split at hx
      case h_1 answer c now hk hr =>
          split at hx
          case h_1 => cases hx
          case h_2 hne =>
              obtain rfl := List.mem_singleton.mp hx
              exact writesTopics_channel (hs c now hr) hne
      case h_2 =>
          obtain rfl := List.mem_singleton.mp hx
          rfl
      case h_3 => cases hx
  | publishArrives | deliver | transmit | pollError | backoffOver | takeCommand | handOver
  | channelQueued | receiveChannel | sendCommand | startCycle | readTopics | jitterOver
  | sendPublish | publishAnswered | endCycle => cases hx

/-- While the broadcast loop has the read guard, the list stays as it is. -/
theorem broadcastTopics_held (h : step app useJitter s e = some s') (hs : Entered s)
    (hheld : s.broadcast.holdsTopics = true) :
    s'.loop.registry.broadcastTopics = s.loop.registry.broadcastTopics := by
  have he : e ≠ .lockTopics := by
    rintro rfl
    simp [step, hheld] at h
  obtain ⟨l', hl', hmatch⟩ := (passes_of_step h).loop s.loop (matches_loop s)
  rw [← hmatch.registry]
  exact broadcastTopics_of_run hl' (writesTopics_emits hs he)

/-- The topics that the cycle under way has not sent a publish command for. -/
def unpublished : Broadcast → List String
  | .publishing topic rest .jitter             => topic :: rest
  | .publishing topic rest (.calling .sending) => topic :: rest
  | .publishing _ rest _                       => rest
  | _                                          => []

/-- The topic that a step sends a publish command for. -/
def publishes (s : State) : Event → List String
  | .sendPublish =>
      match s.broadcast with
      | .publishing topic _ _ => [topic]
      | _ => []
  | _ => []

theorem unpublished_nextTopic (topics : List String) :
    unpublished (.nextTopic useJitter topics) = topics := by
  cases topics with
  | nil => cases useJitter <;> rfl
  | cons topic rest => cases useJitter <;> rfl

theorem unpublished_reply (answer : Except String Unit) (o : Owner) :
    unpublished (s.reply answer o).broadcast = unpublished s.broadcast ∧
      (s.reply answer o).broadcast.holdsTopics = s.broadcast.holdsTopics := by
  cases o with
  | messageLoop | dropped => exact ⟨rfl, rfl⟩
  | broadcast =>
      show unpublished (s.broadcast.reply answer) = _ ∧ (s.broadcast.reply answer).holdsTopics = _
      cases s.broadcast with
      | resting | waitingRead | remainder => exact ⟨rfl, rfl⟩
      | publishing topic rest stage =>
          cases stage with
          | jitter => exact ⟨rfl, rfl⟩
          | calling call => cases call <;> exact ⟨rfl, rfl⟩

/-- Within a cycle the topics are worked off one by one, and the guard is not let go in between. -/
theorem cycle_step (h : step app useJitter s e = some s') (he : e ≠ .readTopics) :
    unpublished s.broadcast = publishes s e ++ unpublished s'.broadcast ∧
      (s'.broadcast.holdsTopics = true → s.broadcast.holdsTopics = true) := by
  cases moves_of_step h with
  | readTopics hb hq => exact absurd rfl he
  | startCycle hb => exact ⟨by rw [hb]; rfl, fun hheld => by cases hheld⟩
  | endCycle hb => exact ⟨by rw [hb]; rfl, fun hheld => by cases hheld⟩
  | jitterOver hb => exact ⟨by rw [hb]; rfl, fun _ => by rw [hb]; rfl⟩
  | sendPublish hb hroom =>
      simp only [publishes, hb]
      exact ⟨rfl, id⟩
  | publishAnswered hb =>
      exact ⟨by rw [hb, unpublished_nextTopic]; rfl, fun _ => by rw [hb]; rfl⟩
  | refuse hc hq | handOver hc hroom =>
      rw [(unpublished_reply _ _).1, (unpublished_reply _ _).2]
      exact ⟨rfl, id⟩
  | arrives _ _ | blocks _ _ | deliver _ _ | transmit _ _ | pollError _ | backoffOver _ | take _ _
  | channelQueued _ | receiveChannel _ _ | receiveMessage _ _ _ | tick _ _ | unsubscribed _ _ _
  | sweepLocked _ _ _ | sendCommand _ _ _ | locks _ _ _ | subscribed _ _ _ _ | locked _ _ _ =>
      exact ⟨rfl, id⟩

/-- The topics that a run sends publish commands for. -/
def published (app : App) (useJitter : Bool) (s : State) (es : List Event) : List String :=
  Simulation.image (step app useJitter) publishes s es

/-- How far a cycle is that has read `list`. -/
structure InCycle (list done : List String) (s : State) : Prop where
  entered : Entered s
  topics  : list = done ++ unpublished s.broadcast
  held    : s.broadcast.holdsTopics = true → s.loop.registry.broadcastTopics = list

theorem InCycle.step {list done : List String} (hin : InCycle list done s)
    (h : step app useJitter s e = some s') (he : e ≠ .readTopics) :
    InCycle list (done ++ publishes s e) s' := by
  obtain ⟨htopics, hkeeps⟩ := cycle_step h he
  refine ⟨entered_step h hin.entered, ?_, ?_⟩
  · rw [List.append_assoc, ← htopics]
    exact hin.topics
  · intro hheld
    rw [broadcastTopics_held h hin.entered (hkeeps hheld)]
    exact hin.held (hkeeps hheld)

/-- The cycle begins: the guard is taken, and nothing is published yet. -/
theorem inCycle_read (h : step app useJitter s .readTopics = some s') (hs : Entered s) :
    InCycle s.loop.registry.broadcastTopics [] s' := by
  refine ⟨entered_step h hs, ?_, ?_⟩
  · cases moves_of_step h with
    | readTopics hb hq => exact (unpublished_nextTopic _).symm
  · intro _
    obtain ⟨l', hl', hmatch⟩ := (passes_of_step h).loop s.loop (matches_loop s)
    rw [← hmatch.registry]
    exact broadcastTopics_of_run hl' (writesTopics_emits hs (by simp))

theorem inCycle_run {list : List String} {es : List Event} {t : State} (hs : InCycle list [] s)
    (h : run (HamletDeadlock.step app useJitter) s es = some t) (hno : .readTopics ∉ es) :
    InCycle list (published app useJitter s es) t := by
  revert hno
  refine run_induction (P := fun es t => .readTopics ∉ es →
    InCycle list (published app useJitter s es) t) (fun _ => hs) ?_ es t h
  intro es e t u hrun ih hstep hno
  rw [published, Simulation.image_concat hrun hstep]
  exact (ih fun hmem => hno (List.mem_append_left _ hmem)).step hstep
    fun he => hno (List.mem_append_right _ (List.mem_singleton.mpr he.symm))

/-- What the handshakes bring onto the list. -/
theorem topicInv_run {es : List Event} (h : tasksRun app useJitter es = some s)
    (hcs : FromHandshakes (queuedChannels es)) :
    HamletBroadcastTopic.TopicInv (channelsOf (loopEvents app useJitter es)) s.loop.registry := by
  obtain ⟨l, hl, hmatch⟩ := (tasks_refine app useJitter).run (matches_loop _) es s h
  have hqueued : queuedChannels es = channelsOf (loopEvents app useJitter es) ++ unregistered s :=
    (conveyed_run h).channels
  rw [hqueued] at hcs
  rw [← hmatch.registry]
  exact (HamletBroadcastTopic.topicHolds_run app _ l hl hcs.left).drop
    fun id r _ hpending => hpending.toTopicInv

end Cycle

/-- **A cycle covers the list as it stands.** From the read of the topic list to the end of the
    cycle, in every interleaving with registrations, sweeps and whatever else goes on: the publish
    commands sent, and those the cycle has left to send, are the topics of the list it has read, in
    their order; and no other task changes the list before the guard is given back. When the
    channels come from handshakes, the list names each topic once, with the handshake that queued
    it. -/
theorem cycle_covers_list (app : App) (useJitter : Bool) (p q : List Event) (t u s : State)
    (hp : tasksRun app useJitter p = some t)
    (hread : step app useJitter t .readTopics = some u)
    (hq : run (step app useJitter) u q = some s) (hlast : .readTopics ∉ q) :
    t.loop.registry.broadcastTopics =
        published app useJitter u q ++ unpublished s.broadcast ∧
      (s.broadcast.holdsTopics = true →
        s.loop.registry.broadcastTopics = t.loop.registry.broadcastTopics) ∧
      (FromHandshakes (queuedChannels p) →
        t.loop.registry.broadcastTopics.Nodup ∧
          ∀ topic ∈ t.loop.registry.broadcastTopics,
            ∃ id, topic = broadcastTopic id ∧ broadcastChannel id ∈ queuedChannels p) := by
  have hin := inCycle_run (inCycle_read hread (entered_run hp)) hq hlast
  refine ⟨hin.topics, hin.held, fun hcs => ?_⟩
  have hinv := topicInv_run hp hcs
  refine ⟨hinv.nodup, ?_⟩
  intro topic hmem
  obtain ⟨id, htopic, hid⟩ := hinv.registered topic hmem
  refine ⟨id, htopic, ?_⟩
  rw [show queuedChannels p = _ from (conveyed_run hp).channels]
  exact List.mem_append_left _ hid

/-- A beacon is registered, and a cycle is about to begin. -/
def beforeCycle : List Event :=
  handshake "b1" ++ subscribing ++ [.receiveChannel 0, .lockTopics, .startCycle]

/-- A second beacon waits for the lock while the first one is published to. -/
def duringCycle : List Event :=
  [.channelQueued (broadcastChannel "b2"), .receiveChannel 1, .jitterOver, .sendPublish]

theorem cycle_covers_list_twoBeacons :
    ∃ t u s, tasksRun node true beforeCycle = some t ∧
      step node true t .readTopics = some u ∧ run (step node true) u duringCycle = some s ∧
      s.broadcast.holdsTopics = true ∧ s.loop.registry.broadcastTopics = ["b1/cast"] ∧
      t.loop.registry.broadcastTopics = published node true u duringCycle ∧
      t.loop.registry.broadcastTopics.Nodup := by
  have hcs : FromHandshakes (queuedChannels beforeCycle) :=
    ⟨by decide, fun c hc => ⟨"b1", by simpa [beforeCycle, handshake, subscribing, queuedChannels]
      using hc⟩⟩
  have hcycle := cycle_covers_list node true beforeCycle duringCycle _ _ _ rfl rfl rfl
    (by simp [duringCycle])
  exact ⟨_, _, _, rfl, rfl, rfl, rfl, hcycle.2.1 rfl, hcycle.1.trans (List.append_nil _),
    (hcycle.2.2 hcs).1⟩

end HamletPipeline
