import Hamlet.Lib.WaitForProofs
import Hamlet.SubscriptionProofs

/-!
# The four tasks around the MQTT client

Four tasks share three bounded queues and a lock:

* the EVENT LOOP polls the client, which also drains the request queue, and puts every inbound
  message into the inbound queue — it awaits room there, and does not poll meanwhile;
* the COMMAND TASK takes the commands of the client handle one by one and awaits room in the
  request queue for each, before it answers the caller;
* the MESSAGE LOOP drains the inbound queue, except while it is inside `register_channel`, which
  awaits the answer of a subscribe call or the write lock of the topic list;
* the BROADCAST LOOP holds the read guard of the topic list over all the publish calls of a cycle.

The message loop is that of `HamletRegistry`; here every await of it, and of the three others, is
an event of its own, so that a run is an interleaving of the four with arriving messages and
handshakes. `waits` says who is blocked, and on whom.

The four can block each other (`jammedRun_deadlocks`), and there is one way to get there:
`Gridlock` — the inbound queue is full, the request queue is full, and the message loop cannot
leave `register_channel` before one more command is handed over. `gridlock_step_iff` says how one
step gets there, `live_command` that nothing is lost without it, and `State.Gridlock.deadlocks`
that nothing helps afterwards.
-/

namespace HamletDeadlock

open HamletRegistry HamletSubscription WaitFor

-- ── The tasks ────────────────────────────────────────────────────────────────

inductive Task where
  | eventLoop
  | command
  | messageLoop
  | broadcast
  deriving DecidableEq, Repr

/-- Where a call of the client handle stands: sending its command, awaiting the reply, or with the
    reply at hand. -/
inductive Call where
  | sending
  | awaiting
  | answered (reply : Except String Unit)

/-- The reply arrives. -/
def Call.reply (answer : Except String Unit) : Call → Call
  | .awaiting => .answered answer
  | c => c

inductive EventLoop where
  /-- In the `select!`; `App::initialize` has dropped the only sender of the outbound queue, so
      that polling is all there is. -/
  | polling
  /-- In `msg_tx.send(msg).await`, without room when it was called. -/
  | sending (msg : MqttMessage)
  /-- In the five seconds after an error. -/
  | backingOff

/-- Who reads the reply of a command. -/
inductive Owner where
  | messageLoop
  | broadcast
  /-- The call was part of a sweep that `select!` has dropped. -/
  | dropped
  deriving DecidableEq, Repr

structure Command where
  owner   : Owner
  request : Request

/-- The command belongs to a call of the message loop that has been dropped. -/
def Command.disown (c : Command) : Command :=
  if c.owner = .messageLoop then { c with owner := .dropped } else c

inductive CommandTask where
  | receiving
  /-- The client awaits room in the request queue. -/
  | handing (c : Command)

/-- Where `register_channel` stands. -/
inductive Registering where
  | subscribing (c : TopicChannel) (now : Instant)
  | locking (c : TopicChannel) (now : Instant)

/-- `register_channel` up to its first await. -/
def Registering.enter (c : TopicChannel) (now : Instant) : Registering :=
  match c.topicType with
  | .broadcast => .locking c now
  | _ => .subscribing c now

inductive Publishing where
  | jitter
  | calling (call : Call)

inductive Broadcast where
  /-- Between two cycles: the interval and the key database. -/
  | resting
  | waitingRead
  | publishing (topic : String) (rest : List String) (stage : Publishing)
  /-- Sleeping for the rest of the interval, with the guard of the topics still in scope. -/
  | remainder

namespace Broadcast

/-- The next iteration of `for topic in topics.iter()`, or what comes after the last one. -/
def nextTopic (useJitter : Bool) : List String → Broadcast
  | [] => if useJitter then .remainder else .resting
  | topic :: rest => .publishing topic rest (if useJitter then .jitter else .calling .sending)

/-- The read guard of the topic list is held. -/
def holdsTopics : Broadcast → Bool
  | .publishing .. => true
  | .remainder => true
  | _ => false

/-- The call that is under way. -/
def call? : Broadcast → Option Call
  | .publishing _ _ (.calling call) => some call
  | _ => none

/-- The reply of the publish call arrives. -/
def reply (answer : Except String Unit) : Broadcast → Broadcast
  | .publishing topic rest (.calling call) => .publishing topic rest (.calling (call.reply answer))
  | b => b

/-- The guard is held, and will not be given back before another publish call is answered. -/
def Unanswered : Broadcast → Prop
  | .publishing _ rest (.calling (.answered _)) => rest ≠ []
  | .publishing .. => True
  | _ => False

theorem unanswered_of_call? {b : Broadcast} {call : Call} (h : b.call? = some call)
    (hcall : ∀ answer, call ≠ .answered answer) : b.Unanswered := by
  cases b with
  | resting => exact nomatch h
  | waitingRead => exact nomatch h
  | remainder => exact nomatch h
  | publishing topic rest stage =>
      cases stage with
      | jitter => exact nomatch h
      | calling call' =>
          obtain rfl := Option.some.inj h
          cases call' with
          | sending => trivial
          | awaiting => trivial
          | answered answer => exact absurd rfl (hcall answer)

/-- Unanswered calls are made with the guard held. -/
theorem holdsTopics_of_unanswered {b : Broadcast} (h : b.Unanswered) : b.holdsTopics = true := by
  cases b with
  | resting => exact h.elim
  | waitingRead => exact h.elim
  | remainder => rfl
  | publishing topic rest stage => rfl

end Broadcast

structure State where
  eventLoop   : EventLoop
  command     : CommandTask
  loop        : LoopState
  /-- The message loop is inside `register_channel`, else in the `select!`. -/
  registering : Option Registering
  /-- The call of the message loop, while it makes one. -/
  call        : Call
  broadcast   : Broadcast
  inbound     : List MqttMessage
  commands    : List Command
  requests    : List Request
  /-- The channels of the handshakes. -/
  channels    : List TopicChannel

/-- `MSG_CAPACITY`. -/
def msgCapacity : ℕ := 64

/-- `CMD_CAPACITY`. -/
def cmdCapacity : ℕ := 64

/-- The capacity `AsyncClient::new` is given. -/
def requestCapacity : ℕ := 10

/-- The capacity of the channel that the handshakes feed. -/
def channelCapacity : ℕ := 64

namespace State

/-- The tasks start when `initialize` has returned: both required subscriptions are requested. -/
def init (app : App) : State where
  eventLoop   := .polling
  command     := .receiving
  loop        := .init app
  registering := none
  call        := .sending
  broadcast   := .resting
  inbound     := []
  commands    := []
  requests    := requiredSubscriptions.map fun (topic, qos) => .subscribe topic qos
  channels    := []

/-- The request of the call that the message loop makes: `register_channel` subscribes, the sweep
    unsubscribes. -/
def calling (s : State) : Option Request :=
  match s.registering with
  | some (.subscribing c _) => some (.subscribe c.topic.topic (qosFromU8 c.topic.qos))
  | some (.locking ..) => none
  | none =>
      match s.loop.sweep with
      | .unsubscribing _ record _ => some (.unsubscribe record.listenTopic)
      | _ => none

/-- The message loop waits for the write lock of the topic list. The lock is fair: a later reader
    waits behind it. -/
def queuesWrite (s : State) : Bool :=
  match s.registering with
  | some (.locking ..) => true
  | some (.subscribing ..) => false
  | none =>
      match s.loop.sweep with
      | .lockingTopics .. => true
      | _ => false

/-- The command task answers a command. -/
def reply (s : State) (answer : Except String Unit) : Owner → State
  | .messageLoop => { s with call := s.call.reply answer }
  | .broadcast => { s with broadcast := s.broadcast.reply answer }
  | .dropped => s

/-- `select!` drops the sweep: a command it has sent stays behind, and nobody reads the reply. -/
def dropSweep (s : State) : State :=
  { s with
    loop     := { s.loop with sweep := .waitingTick }
    call     := .sending
    commands := s.commands.map Command.disown
    command  := match s.command with
      | .handing c => .handing c.disown
      | .receiving => .receiving }

end State

inductive Event where
  /-- The poll yields a message. -/
  | publishArrives (msg : MqttMessage)
  /-- The message that found the inbound queue full gets its room. -/
  | deliver
  /-- The poll sends a request. -/
  | transmit
  /-- The poll fails. The end of a connection drains the request queue, whose packets are never
      sent; an attempt to connect that fails leaves it alone. -/
  | pollError (disconnected : Bool)
  | backoffOver
  /-- The command task takes a command; the client refuses a malformed one at once. -/
  | takeCommand (refused : Option String)
  /-- The request queue takes the command; the caller is answered. -/
  | handOver
  /-- A handshake puts a channel into the queue, if there is room. -/
  | channelQueued (c : TopicChannel)
  | receiveChannel (now : Instant)
  | receiveMessage (now : Instant)
  | tick (now : Instant) (stale : List String)
  /-- The message loop sends the command of its call. -/
  | sendCommand
  /-- The message loop goes on with the reply. -/
  | callAnswered
  /-- The message loop gets the write lock. -/
  | lockTopics
  | startCycle
  | readTopics
  | jitterOver
  | sendPublish
  | publishAnswered
  | endCycle

/-- `register_channel` returns. -/
def State.registered (app : App) (s : State) (c : TopicChannel) (now : Instant)
    (answer : Except String Unit) : Option State :=
  (HamletRegistry.step app s.loop (.channel c now answer)).map fun loop =>
    { s with loop := loop, registering := none, call := .sending }

def step (app : App) (useJitter : Bool) (s : State) : Event → Option State
  | .publishArrives msg =>
      match s.eventLoop with
      | .polling =>
          if s.inbound.length < msgCapacity then some { s with inbound := s.inbound ++ [msg] }
          else some { s with eventLoop := .sending msg }
      | _ => none
  | .deliver =>
      match s.eventLoop with
      | .sending msg =>
          if s.inbound.length < msgCapacity then
            some { s with eventLoop := .polling, inbound := s.inbound ++ [msg] }
          else none
      | _ => none
  | .transmit =>
      match s.eventLoop, s.requests with
      | .polling, _ :: rest => some { s with requests := rest }
      | _, _ => none
  | .pollError disconnected =>
      match s.eventLoop with
      | .polling =>
          some { s with eventLoop := .backingOff
                        requests  := if disconnected then [] else s.requests }
      | _ => none
  | .backoffOver =>
      match s.eventLoop with
      | .backingOff => some { s with eventLoop := .polling }
      | _ => none
  | .takeCommand refused =>
      match s.command, s.commands with
      | .receiving, c :: rest =>
          match refused with
          | none => some { s with commands := rest, command := .handing c }
          | some e => some ({ s with commands := rest }.reply (.error e) c.owner)
      | _, _ => none
  | .handOver =>
      match s.command with
      | .handing c =>
          if s.requests.length < requestCapacity then
            some ({ s with command := .receiving, requests := s.requests ++ [c.request] }.reply
              (.ok ()) c.owner)
          else none
      | .receiving => none
  | .channelQueued c =>
      if s.channels.length < channelCapacity then some { s with channels := s.channels ++ [c] }
      else none
  | .receiveChannel now =>
      match s.registering, s.channels with
      | none, c :: rest =>
          some { s.dropSweep with registering := some (.enter c now), channels := rest }
      | _, _ => none
  | .receiveMessage now =>
      match s.registering, s.inbound with
      | none, msg :: rest =>
          (HamletRegistry.step app s.loop (.message msg now)).map fun loop =>
            { s.dropSweep with loop := loop, inbound := rest }
      | _, _ => none
  | .tick now stale =>
      match s.registering with
      | none =>
          (HamletRegistry.step app s.loop (.tick now stale)).map fun loop =>
            { s with loop := loop, call := .sending }
      | some _ => none
  | .sendCommand =>
      match s.calling, s.call with
      | some request, .sending =>
          if s.commands.length < cmdCapacity then
            some { s with call := .awaiting
                          commands := s.commands ++ [⟨.messageLoop, request⟩] }
          else none
      | _, _ => none
  | .callAnswered =>
      match s.call, s.registering with
      | .answered answer, some (.subscribing c now) =>
          match c.topicType, answer with
          | .hybrid, .ok () =>
              some { s with registering := some (.locking c now), call := .sending }
          | _, _ => s.registered app c now answer
      | .answered answer, none =>
          (HamletRegistry.step app s.loop (.unsubscribed answer)).map fun loop =>
            { s with loop := loop, call := .sending }
      | _, _ => none
  | .lockTopics =>
      if s.broadcast.holdsTopics then none
      else
        match s.registering with
        | some (.locking c now) => s.registered app c now (.ok ())
        | some (.subscribing ..) => none
        | none =>
            (HamletRegistry.step app s.loop .topicsLocked).map fun loop =>
              { s with loop := loop, call := .sending }
  | .startCycle =>
      match s.broadcast with
      | .resting => some { s with broadcast := .waitingRead }
      | _ => none
  | .readTopics =>
      match s.broadcast with
      | .waitingRead =>
          if s.queuesWrite then none
          else some { s with broadcast := .nextTopic useJitter s.loop.registry.broadcastTopics }
      | _ => none
  | .jitterOver =>
      match s.broadcast with
      | .publishing topic rest .jitter =>
          some { s with broadcast := .publishing topic rest (.calling .sending) }
      | _ => none
  | .sendPublish =>
      match s.broadcast with
      | .publishing topic rest (.calling .sending) =>
          if s.commands.length < cmdCapacity then
            some { s with broadcast := .publishing topic rest (.calling .awaiting)
                          commands := s.commands ++ [⟨.broadcast, .publish topic⟩] }
          else none
      | _ => none
  | .publishAnswered =>
      match s.broadcast with
      | .publishing _ rest (.calling (.answered _)) =>
          some { s with broadcast := .nextTopic useJitter rest }
      | _ => none
  | .endCycle =>
      match s.broadcast with
      | .remainder => some { s with broadcast := .resting }
      | _ => none

/-- A run of the four tasks from their start. -/
abbrev tasksRun (app : App) (useJitter : Bool) (es : List Event) : Option State :=
  EventRun.run (step app useJitter) (.init app) es

-- ── Who waits for whom ───────────────────────────────────────────────────────

namespace State

/-- A call waits for the command task: for room in the command queue, or for the reply. -/
def callWaits (s : State) : Call → Option (Finset Task)
  | .sending => if s.commands.length < cmdCapacity then none else some {.command}
  | .awaiting => some {.command}
  | .answered _ => none

/-- Which tasks are blocked, and which tasks alone can release them. The `select!` of the message
    loop is none of it: a handshake or the timer ends it. Nor are the network, the key database and
    the sleeps of the broadcast loop. -/
def waits (s : State) : Task → Option (Finset Task)
  | .eventLoop =>
      match s.eventLoop with
      | .sending _ => if s.inbound.length < msgCapacity then none else some {.messageLoop}
      | _ => none
  | .command =>
      match s.command, s.commands with
      | .handing _, _ =>
          if s.requests.length < requestCapacity then none else some {.eventLoop}
      | .receiving, [] => some {.messageLoop, .broadcast}
      | .receiving, _ :: _ => none
  | .messageLoop =>
      match s.registering with
      | none => none
      | some (.subscribing ..) => s.callWaits s.call
      | some (.locking ..) => if s.broadcast.holdsTopics then some {.broadcast} else none
  | .broadcast =>
      match s.broadcast with
      | .waitingRead => if s.queuesWrite then some {.messageLoop} else none
      | .publishing _ _ (.calling call) => s.callWaits call
      | _ => none

/-- The event loop has a message that the inbound queue does not take. -/
def InboundBlocked (s : State) : Prop :=
  (∃ msg, s.eventLoop = .sending msg) ∧ ¬ s.inbound.length < msgCapacity

/-- The command task has a command that the request queue does not take. -/
def RequestsBlocked (s : State) : Prop :=
  (∃ c, s.command = .handing c) ∧ ¬ s.requests.length < requestCapacity

/-- The message loop is inside `register_channel` and does not return before another command is
    handed over: that of its own call, or of the broadcast loop that holds the topics. -/
def AwaitsCommand (s : State) : Prop :=
  match s.registering with
  | some (.subscribing ..) => ∀ answer, s.call ≠ .answered answer
  | some (.locking ..) => s.broadcast.Unanswered
  | none => False

@[mk_iff] structure Gridlock (s : State) : Prop where
  inbound  : s.InboundBlocked
  requests : s.RequestsBlocked
  awaits   : s.AwaitsCommand

/-- The event brings about the third part of a gridlock while the state has the other two. -/
def Completes (s : State) : Event → Prop
  | .publishArrives _ =>
      ¬ s.inbound.length < msgCapacity ∧ s.RequestsBlocked ∧ s.AwaitsCommand
  | .takeCommand none =>
      ¬ s.requests.length < requestCapacity ∧ s.InboundBlocked ∧ s.AwaitsCommand
  | .receiveChannel _ =>
      s.InboundBlocked ∧ s.RequestsBlocked ∧
        ∃ c ∈ s.channels.head?, c.topicType = .broadcast → s.broadcast.Unanswered
  | .callAnswered =>
      s.InboundBlocked ∧ s.RequestsBlocked ∧ s.broadcast.Unanswered ∧
        s.call = .answered (.ok ()) ∧
          ∃ c now, s.registering = some (.subscribing c now) ∧ c.topicType = .hybrid
  | _ => False

/-- A command of the owner is in the queue, or with the command task. -/
def Pending (s : State) (o : Owner) : Prop :=
  (∃ c ∈ s.commands, c.owner = o) ∨ ∃ c, s.command = .handing c ∧ c.owner = o

/-- Whoever awaits a reply has a command that will be answered. -/
structure CallsPending (s : State) : Prop where
  messageLoop : s.call = .awaiting → s.Pending .messageLoop
  broadcast   : s.broadcast.call? = some .awaiting → s.Pending .broadcast

end State

-- ── Without a gridlock every task is live ────────────────────────────────────

section Live

variable {s : State}

/-- A call goes on once the command task does. -/
theorem live_of_callWaits {t : Task} (call : Call) (hc : Live s.waits .command)
    (h : s.waits t = s.callWaits call) : Live s.waits t := by
  cases call with
  | sending =>
      rw [State.callWaits] at h
      split at h
      · exact .free h
      · exact .of_singleton h hc
  | awaiting => exact .of_singleton h hc
  | answered answer => exact .free h

/-- A broadcast loop with the read guard waits for nothing but its call. -/
theorem waits_broadcast_of_holds (hholds : s.broadcast.holdsTopics = true)
    (h : ∀ call, s.broadcast.call? = some call → s.callWaits call = none) :
    s.waits .broadcast = none := by
  cases hb : s.broadcast with
  | resting => simp [hb, Broadcast.holdsTopics] at hholds
  | waitingRead => simp [hb, Broadcast.holdsTopics] at hholds
  | remainder => simp [State.waits, hb]
  | publishing topic rest stage =>
      cases stage with
      | jitter => simp [State.waits, hb]
      | calling call =>
          simp only [State.waits, hb]
          exact h call (by rw [hb, Broadcast.call?])

/-- Whoever waits for the write lock waits for the broadcast loop, if for anyone. -/
theorem live_messageLoop_of_locking {c : TopicChannel} {now : Instant}
    (hr : s.registering = some (.locking c now))
    (hb : s.broadcast.holdsTopics = true → Live s.waits .broadcast) :
    Live s.waits .messageLoop := by
  by_cases h : s.broadcast.holdsTopics = true
  · exact .of_singleton (by simp only [State.waits, hr, h, if_true]) (hb h)
  · exact .free (by simp [State.waits, hr, h])

theorem live_broadcast (hc : Live s.waits .command) : Live s.waits .broadcast := by
  cases hb : s.broadcast with
  | resting => exact .free (by simp [State.waits, hb])
  | remainder => exact .free (by simp [State.waits, hb])
  | publishing topic rest stage =>
      cases stage with
      | jitter => exact .free (by simp [State.waits, hb])
      | calling call => exact live_of_callWaits call hc (by simp [State.waits, hb])
  | waitingRead =>
      by_cases hq : s.queuesWrite = true
      · refine .of_singleton (r := .messageLoop) (by simp only [State.waits, hb, hq, if_true]) ?_
        cases hr : s.registering with
        | none => exact .free (by simp [State.waits, hr])
        | some r =>
            cases r with
            | subscribing c now => simp [State.queuesWrite, hr] at hq
            | locking c now =>
                refine live_messageLoop_of_locking hr fun hholds => ?_
                rw [hb] at hholds
                exact Bool.noConfusion hholds
      · exact .free (by simp [State.waits, hb, hq])

theorem live_messageLoop (hc : Live s.waits .command) : Live s.waits .messageLoop := by
  cases hr : s.registering with
  | none => exact .free (by simp [State.waits, hr])
  | some r =>
      cases r with
      | subscribing c now => exact live_of_callWaits s.call hc (by simp [State.waits, hr])
      | locking c now => exact live_messageLoop_of_locking hr fun _ => live_broadcast hc

theorem live_eventLoop (hm : Live s.waits .messageLoop) : Live s.waits .eventLoop := by
  cases he : s.eventLoop with
  | polling => exact .free (by simp [State.waits, he])
  | backingOff => exact .free (by simp [State.waits, he])
  | sending msg =>
      by_cases hroom : s.inbound.length < msgCapacity
      · exact .free (by simp [State.waits, he, hroom])
      · exact .of_singleton (by simp only [State.waits, he, hroom, if_false]) hm

/-- All four tasks hang on the command task. -/
theorem live_of_command (hc : Live s.waits .command) (t : Task) : Live s.waits t := by
  cases t with
  | eventLoop => exact live_eventLoop (live_messageLoop hc)
  | command => exact hc
  | messageLoop => exact live_messageLoop hc
  | broadcast => exact live_broadcast hc

/-- An idle command task has someone who will send it a command: nobody awaits a reply. -/
theorem live_command_of_idle (hp : s.CallsPending) (hc : s.command = .receiving)
    (hq : s.commands = []) : Live s.waits .command := by
  have hnone : ∀ o, ¬ s.Pending o := by
    rintro o (⟨c, hmem, -⟩ | ⟨c, hh, -⟩)
    · rw [hq] at hmem
      exact nomatch hmem
    · exact nomatch hc.symm.trans hh
  have hroom : s.commands.length < cmdCapacity := by rw [hq]; decide
  have hfree : ∀ call, call ≠ .awaiting → s.callWaits call = none := by
    intro call hcall
    cases call with
    | sending => rw [State.callWaits, if_pos hroom]
    | awaiting => exact absurd rfl hcall
    | answered answer => rfl
  refine .released (r := .messageLoop) (R := {.messageLoop, .broadcast})
    (by simp [State.waits, hc, hq]) (by simp) ?_
  cases hr : s.registering with
  | none => exact .free (by simp [State.waits, hr])
  | some r =>
      cases r with
      | subscribing c now =>
          refine .free ?_
          simp only [State.waits, hr]
          exact hfree _ fun h => hnone _ (hp.messageLoop h)
      | locking c now =>
          refine live_messageLoop_of_locking hr fun hholds =>
            .free (waits_broadcast_of_holds hholds fun call hcall => hfree call ?_)
          rintro rfl
          exact hnone _ (hp.broadcast hcall)

/-- A message loop that does not need another command can go on by itself, or after the broadcast
    loop has. -/
theorem live_messageLoop_of_not_awaits (h : ¬ s.AwaitsCommand) : Live s.waits .messageLoop := by
  cases hr : s.registering with
  | none => exact .free (by simp [State.waits, hr])
  | some r =>
      cases r with
      | subscribing c now =>
          simp only [State.AwaitsCommand, hr, not_forall, not_not] at h
          obtain ⟨answer, ha⟩ := h
          exact .free (by simp [State.waits, hr, ha, State.callWaits])
      | locking c now =>
          simp only [State.AwaitsCommand, hr] at h
          refine live_messageLoop_of_locking hr fun hholds =>
            .free (waits_broadcast_of_holds hholds fun call hcall => ?_)
          cases call with
          | answered answer => rfl
          | sending => exact absurd (Broadcast.unanswered_of_call? hcall (by simp)) h
          | awaiting => exact absurd (Broadcast.unanswered_of_call? hcall (by simp)) h

theorem live_command (hp : s.CallsPending) (h : ¬ s.Gridlock) : Live s.waits .command := by
  cases hc : s.command with
  | receiving =>
      cases hq : s.commands with
      | nil => exact live_command_of_idle hp hc hq
      | cons c rest => exact .free (by simp [State.waits, hc, hq])
  | handing c =>
      by_cases hroom : s.requests.length < requestCapacity
      · exact .free (by simp [State.waits, hc, hroom])
      · refine .of_singleton (r := .eventLoop) (by simp only [State.waits, hc, hroom, if_false]) ?_
        by_cases hin : s.InboundBlocked
        · refine live_eventLoop (live_messageLoop_of_not_awaits fun ha => ?_)
          exact h ⟨hin, ⟨⟨c, hc⟩, hroom⟩, ha⟩
        · refine .free ?_
          cases he : s.eventLoop with
          | polling => simp [State.waits, he]
          | backingOff => simp [State.waits, he]
          | sending msg =>
              have hfree : s.inbound.length < msgCapacity := by
                by_contra hfull
                exact hin ⟨⟨msg, he⟩, hfull⟩
              simp [State.waits, he, hfree]

/-- A circular wait needs a gridlock. -/
theorem not_circularWait_of_not_gridlock (hp : s.CallsPending) (h : ¬ s.Gridlock) :
    ¬ CircularWait s.waits :=
  not_circularWait_iff.mpr (live_of_command (live_command hp h))

end Live

-- ── The transitions ──────────────────────────────────────────────────────────

/-- Everything one event can do, with the guards it passed. -/
inductive Transition (app : App) (useJitter : Bool) (s : State) : Event → State → Prop
  | arrives {msg : MqttMessage} (he : s.eventLoop = .polling)
      (hroom : s.inbound.length < msgCapacity) :
      Transition app useJitter s (.publishArrives msg) { s with inbound := s.inbound ++ [msg] }
  | blocks {msg : MqttMessage} (he : s.eventLoop = .polling)
      (hfull : ¬ s.inbound.length < msgCapacity) :
      Transition app useJitter s (.publishArrives msg) { s with eventLoop := .sending msg }
  | deliver {msg : MqttMessage} (hroom : s.inbound.length < msgCapacity) :
      Transition app useJitter s .deliver
        { s with eventLoop := .polling, inbound := s.inbound ++ [msg] }
  | transmit {r : Request} {rest : List Request} (he : s.eventLoop = .polling)
      (hq : s.requests = r :: rest) :
      Transition app useJitter s .transmit { s with requests := rest }
  | pollError {disconnected : Bool} (he : s.eventLoop = .polling) :
      Transition app useJitter s (.pollError disconnected)
        { s with eventLoop := .backingOff
                 requests  := if disconnected then [] else s.requests }
  | backoffOver (he : s.eventLoop = .backingOff) :
      Transition app useJitter s .backoffOver { s with eventLoop := .polling }
  | take {c : Command} {rest : List Command} (hc : s.command = .receiving)
      (hq : s.commands = c :: rest) :
      Transition app useJitter s (.takeCommand none)
        { s with commands := rest, command := .handing c }
  | refuse {c : Command} {rest : List Command} {e : String} (hc : s.command = .receiving)
      (hq : s.commands = c :: rest) :
      Transition app useJitter s (.takeCommand (some e))
        ({ s with commands := rest }.reply (.error e) c.owner)
  | handOver {c : Command} (hc : s.command = .handing c)
      (hroom : s.requests.length < requestCapacity) :
      Transition app useJitter s .handOver
        ({ s with command := .receiving, requests := s.requests ++ [c.request] }.reply
          (.ok ()) c.owner)
  | channelQueued (c : TopicChannel) :
      Transition app useJitter s (.channelQueued c) { s with channels := s.channels ++ [c] }
  | receiveChannel {c : TopicChannel} {rest : List TopicChannel} {now : Instant}
      (hr : s.registering = none) (hq : s.channels = c :: rest) :
      Transition app useJitter s (.receiveChannel now)
        { s.dropSweep with registering := some (.enter c now), channels := rest }
  | receiveMessage {rest : List MqttMessage} {now : Instant} {loop : LoopState}
      (hr : s.registering = none) :
      Transition app useJitter s (.receiveMessage now)
        { s.dropSweep with loop := loop, inbound := rest }
  /-- The sweep gets past one of its awaits. -/
  | sweeps {e : Event} {loop : LoopState} (hr : s.registering = none) (hnc : ¬ s.Completes e) :
      Transition app useJitter s e { s with loop := loop, call := .sending }
  | sendCommand {request : Request} (hs : s.call = .sending) :
      Transition app useJitter s .sendCommand
        { s with call := .awaiting, commands := s.commands ++ [⟨.messageLoop, request⟩] }
  | locks {c : TopicChannel} {now : Instant} (hs : s.call = .answered (.ok ()))
      (hr : s.registering = some (.subscribing c now)) (ht : c.topicType = .hybrid) :
      Transition app useJitter s .callAnswered
        { s with registering := some (.locking c now), call := .sending }
  /-- `register_channel` returns with the reply or with the lock at hand. -/
  | registered {e : Event} {loop : LoopState} (hfree : ¬ s.AwaitsCommand) (hnc : ¬ s.Completes e) :
      Transition app useJitter s e { s with loop := loop, registering := none, call := .sending }
  | startCycle (hb : s.broadcast = .resting) :
      Transition app useJitter s .startCycle { s with broadcast := .waitingRead }
  | readTopics (hb : s.broadcast = .waitingRead) (hq : s.queuesWrite = false) :
      Transition app useJitter s .readTopics
        { s with broadcast := .nextTopic useJitter s.loop.registry.broadcastTopics }
  | jitterOver {topic : String} {rest : List String}
      (hb : s.broadcast = .publishing topic rest .jitter) :
      Transition app useJitter s .jitterOver
        { s with broadcast := .publishing topic rest (.calling .sending) }
  | sendPublish {topic : String} {rest : List String}
      (hb : s.broadcast = .publishing topic rest (.calling .sending)) :
      Transition app useJitter s .sendPublish
        { s with broadcast := .publishing topic rest (.calling .awaiting)
                 commands := s.commands ++ [⟨.broadcast, .publish topic⟩] }
  | publishAnswered {topic : String} {rest : List String} {answer : Except String Unit}
      (hb : s.broadcast = .publishing topic rest (.calling (.answered answer))) :
      Transition app useJitter s .publishAnswered
        { s with broadcast := .nextTopic useJitter rest }
  | endCycle (hb : s.broadcast = .remainder) :
      Transition app useJitter s .endCycle { s with broadcast := .resting }

theorem transition_of_step {app : App} {useJitter : Bool} {s s' : State} {e : Event}
    (h : step app useJitter s e = some s') : Transition app useJitter s e s' := by
  cases e with
  | publishArrives msg =>
      simp only [step] at h
      split at h
      · rename_i he
        split at h
        · rename_i hroom; exact Option.some.inj h ▸ .arrives he hroom
        · rename_i hfull; exact Option.some.inj h ▸ .blocks he hfull
      · exact nomatch h
  | deliver =>
      simp only [step] at h
      split at h
      · split at h
        · rename_i hroom; exact Option.some.inj h ▸ .deliver hroom
        · exact nomatch h
      · exact nomatch h
  | transmit =>
      simp only [step] at h
      split at h
      · rename_i he hq; exact Option.some.inj h ▸ .transmit he hq
      · exact nomatch h
  | pollError disconnected =>
      simp only [step] at h
      split at h
      · rename_i he; exact Option.some.inj h ▸ .pollError he
      · exact nomatch h
  | backoffOver =>
      simp only [step] at h
      split at h
      · rename_i he; exact Option.some.inj h ▸ .backoffOver he
      · exact nomatch h
  | takeCommand refused =>
      simp only [step] at h
      split at h
      · rename_i hc hq
        cases refused with
        | none => exact Option.some.inj h ▸ .take hc hq
        | some e => exact Option.some.inj h ▸ .refuse hc hq
      · exact nomatch h
  | handOver =>
      simp only [step] at h
      split at h
      · rename_i hc
        split at h
        · rename_i hroom; exact Option.some.inj h ▸ .handOver hc hroom
        · exact nomatch h
      · exact nomatch h
  | channelQueued c =>
      simp only [step] at h
      split at h
      · exact Option.some.inj h ▸ .channelQueued c
      · exact nomatch h
  | receiveChannel now =>
      simp only [step] at h
      split at h
      · rename_i hr hq; exact Option.some.inj h ▸ .receiveChannel hr hq
      · exact nomatch h
  | receiveMessage now =>
      simp only [step] at h
      split at h
      · rename_i hr hq
        obtain ⟨loop, -, rfl⟩ := Option.map_eq_some_iff.mp h
        exact .receiveMessage hr
      · exact nomatch h
  | tick now stale =>
      simp only [step] at h
      split at h
      · rename_i hr
        obtain ⟨loop, -, rfl⟩ := Option.map_eq_some_iff.mp h
        exact .sweeps hr id
      · exact nomatch h
  | sendCommand =>
      simp only [step] at h
      split at h
      · rename_i hs
        split at h
        · exact Option.some.inj h ▸ .sendCommand hs
        · exact nomatch h
      · exact nomatch h
  | callAnswered =>
      simp only [step] at h
      split at h
      · rename_i answer c now hs hr
        have hfree : ¬ s.AwaitsCommand := by
          simp only [State.AwaitsCommand, hr]
          exact fun ha => ha answer hs
        split at h
        · rename_i ht
          exact Option.some.inj h ▸ .locks hs hr ht
        · rename_i hne
          obtain ⟨loop, -, rfl⟩ := Option.map_eq_some_iff.mp h
          refine .registered hfree ?_
          rintro ⟨-, -, -, hok, c', now', hr', ht⟩
          obtain ⟨rfl, rfl⟩ := Registering.subscribing.inj (Option.some.inj (hr.symm.trans hr'))
          exact hne ht (Call.answered.inj (hs.symm.trans hok))
      · rename_i answer hs hr
        obtain ⟨loop, -, rfl⟩ := Option.map_eq_some_iff.mp h
        refine .sweeps hr ?_
        rintro ⟨-, -, -, -, c', now', hr', -⟩
        exact nomatch hr.symm.trans hr'
      · exact nomatch h
  | lockTopics =>
      simp only [step] at h
      split at h
      · exact nomatch h
      · rename_i hholds
        split at h
        · rename_i c now hr
          obtain ⟨loop, -, rfl⟩ := Option.map_eq_some_iff.mp h
          refine .registered ?_ id
          simp only [State.AwaitsCommand, hr]
          exact fun hu => hholds (Broadcast.holdsTopics_of_unanswered hu)
        · exact nomatch h
        · rename_i hr
          obtain ⟨loop, -, rfl⟩ := Option.map_eq_some_iff.mp h
          exact .sweeps hr id
  | startCycle =>
      simp only [step] at h
      split at h
      · rename_i hb; exact Option.some.inj h ▸ .startCycle hb
      · exact nomatch h
  | readTopics =>
      simp only [step] at h
      split at h
      · rename_i hb
        split at h
        · exact nomatch h
        · rename_i hq; exact Option.some.inj h ▸ .readTopics hb (Bool.eq_false_iff.mpr hq)
      · exact nomatch h
  | jitterOver =>
      simp only [step] at h
      split at h
      · rename_i hb; exact Option.some.inj h ▸ .jitterOver hb
      · exact nomatch h
  | sendPublish =>
      simp only [step] at h
      split at h
      · rename_i hb
        split at h
        · exact Option.some.inj h ▸ .sendPublish hb
        · exact nomatch h
      · exact nomatch h
  | publishAnswered =>
      simp only [step] at h
      split at h
      · rename_i hb; exact Option.some.inj h ▸ .publishAnswered hb
      · exact nomatch h
  | endCycle =>
      simp only [step] at h
      split at h
      · rename_i hb; exact Option.some.inj h ▸ .endCycle hb
      · exact nomatch h

-- ── What one step does to a gridlock ─────────────────────────────────────────

section Steps

variable {app : App} {useJitter : Bool} {s s' : State} {e : Event}

@[simp] theorem reply_command (answer : Except String Unit) (o : Owner) :
    (s.reply answer o).command = s.command := by
  cases o <;> rfl

theorem not_gridlock_of_polling (he : s.eventLoop = .polling) : ¬ s.Gridlock := by
  rintro ⟨⟨⟨msg, hm⟩, -⟩, -, -⟩
  exact nomatch he.symm.trans hm

theorem not_gridlock_of_receiving (hc : s.command = .receiving) : ¬ s.Gridlock := by
  rintro ⟨-, ⟨⟨c, hh⟩, -⟩, -⟩
  exact nomatch hc.symm.trans hh

theorem not_gridlock_of_selecting (hr : s.registering = none) : ¬ s.Gridlock := by
  rintro ⟨-, -, ha⟩
  simp only [State.AwaitsCommand, hr] at ha

/-- What a gridlock does not depend on: the command queue, the channels of the handshakes, how far
    an unanswered call of the message loop is, and the broadcast loop while the message loop does
    not wait for its guard. -/
theorem gridlock_frame {b : Broadcast} {k : Call} {cs : List Command} {chs : List TopicChannel}
    (hk : (∀ answer, k ≠ .answered answer) ↔ ∀ answer, s.call ≠ .answered answer)
    (hb : s.queuesWrite = true → (b.Unanswered ↔ s.broadcast.Unanswered)) :
    { s with broadcast := b, call := k, commands := cs, channels := chs }.Gridlock ↔
      s.Gridlock := by
  have hawaits : { s with broadcast := b, call := k, commands := cs, channels := chs }.AwaitsCommand
      ↔ s.AwaitsCommand := by
    cases hr : s.registering with
    | none => simp only [State.AwaitsCommand, hr]
    | some r =>
        cases r with
        | subscribing c now => simpa only [State.AwaitsCommand, hr] using hk
        | locking c now =>
            simp only [State.AwaitsCommand, hr]
            exact hb (by rw [State.queuesWrite, hr])
  rw [State.gridlock_iff, State.gridlock_iff, hawaits]
  exact Iff.rfl

theorem unanswered_nextTopic {topics : List String} :
    (Broadcast.nextTopic useJitter topics).Unanswered ↔ topics ≠ [] := by
  cases topics with
  | nil => cases useJitter <;> simp [Broadcast.nextTopic, Broadcast.Unanswered]
  | cons topic rest => cases useJitter <;> simp [Broadcast.nextTopic, Broadcast.Unanswered]

/-- A dropped sweep leaves the command task where it is. -/
theorem requestsBlocked_dropSweep : s.dropSweep.RequestsBlocked ↔ s.RequestsBlocked := by
  unfold State.RequestsBlocked State.dropSweep
  cases s.command <;> simp

/-- **The step lemma.** A gridlock is never left, and entered by completing it only. -/
theorem gridlock_step_iff (h : Transition app useJitter s e s') :
    s'.Gridlock ↔ s.Gridlock ∨ s.Completes e := by
  have hnone : ∀ {P Q R : Prop}, ¬ P → ¬ Q → ¬ R → (P ↔ Q ∨ R) :=
    fun hp hq hr => iff_of_false hp (not_or_intro hq hr)
  have hleft : ∀ {P Q R : Prop}, (P ↔ Q) → ¬ R → (P ↔ Q ∨ R) :=
    fun hpq hr => hpq.trans (or_iff_left hr).symm
  have hright : ∀ {P Q R : Prop}, ¬ Q → (P ↔ R) → (P ↔ Q ∨ R) :=
    fun hq hpr => hpr.trans (or_iff_right hq).symm
  cases h with
  | arrives he hroom =>
      exact hnone (not_gridlock_of_polling he) (not_gridlock_of_polling he) fun hc => hc.1 hroom
  | blocks he hfull =>
      refine hright (not_gridlock_of_polling he) ?_
      constructor
      · rintro ⟨-, hreq, haw⟩
        exact ⟨hfull, hreq, haw⟩
      · rintro ⟨-, hreq, haw⟩
        exact ⟨⟨⟨_, rfl⟩, hfull⟩, hreq, haw⟩
  | deliver hroom =>
      exact hnone (not_gridlock_of_polling rfl) (fun hg => hg.inbound.2 hroom) id
  | transmit he hq =>
      exact hnone (not_gridlock_of_polling he) (not_gridlock_of_polling he) id
  | pollError he =>
      refine hnone ?_ (not_gridlock_of_polling he) id
      rintro ⟨⟨⟨msg, hm⟩, -⟩, -, -⟩
      exact nomatch hm
  | backoffOver he =>
      refine hnone (not_gridlock_of_polling rfl) ?_ id
      rintro ⟨⟨⟨msg, hm⟩, -⟩, -, -⟩
      exact nomatch he.symm.trans hm
  | take hc hq =>
      refine hright (not_gridlock_of_receiving hc) ?_
      constructor
      · rintro ⟨hin, ⟨-, hfull⟩, haw⟩
        exact ⟨hfull, hin, haw⟩
      · rintro ⟨hfull, hin, haw⟩
        exact ⟨hin, ⟨⟨_, rfl⟩, hfull⟩, haw⟩
  | refuse hc hq =>
      exact hnone (not_gridlock_of_receiving (by simpa using hc)) (not_gridlock_of_receiving hc) id
  | handOver hc hroom =>
      exact hnone (not_gridlock_of_receiving (by simp)) (fun hg => hg.requests.2 hroom) id
  | channelQueued c => exact hleft (gridlock_frame Iff.rfl fun _ => Iff.rfl) id
  | receiveChannel hr hq =>
      rename_i c rest now
      refine hright (not_gridlock_of_selecting hr) ?_
      have hawaits :
          { s.dropSweep with registering := some (.enter c now), channels := rest }.AwaitsCommand ↔
            (c.topicType = .broadcast → s.broadcast.Unanswered) := by
        cases ht : c.topicType <;>
          simp [State.AwaitsCommand, Registering.enter, ht, State.dropSweep]
      have hreq : State.RequestsBlocked
          { s.dropSweep with registering := some (.enter c now), channels := rest } ↔
            s.RequestsBlocked := requestsBlocked_dropSweep
      rw [State.gridlock_iff, hawaits, hreq]
      simp only [State.Completes, hq, List.head?_cons, Option.mem_some_iff, exists_eq_left']
      exact Iff.rfl
  | receiveMessage hr =>
      exact hnone (not_gridlock_of_selecting hr) (not_gridlock_of_selecting hr) id
  | sweeps hr hnc => exact hnone (not_gridlock_of_selecting hr) (not_gridlock_of_selecting hr) hnc
  | sendCommand hs =>
      refine hleft (gridlock_frame ?_ fun _ => Iff.rfl) id
      simp [hs]
  | locks hs hr ht =>
      refine hright ?_ ?_
      · rintro ⟨-, -, ha⟩
        simp only [State.AwaitsCommand, hr] at ha
        exact ha _ hs
      · constructor
        · rintro ⟨hin, hreq, haw⟩
          exact ⟨hin, hreq, haw, hs, _, _, hr, ht⟩
        · rintro ⟨hin, hreq, haw, -⟩
          exact ⟨hin, hreq, haw⟩
  | registered hfree hnc =>
      exact hnone (not_gridlock_of_selecting rfl) (fun hg => hfree hg.awaits) hnc
  | startCycle hb =>
      refine hleft (gridlock_frame Iff.rfl fun _ => ?_) id
      simp [hb, Broadcast.Unanswered]
  | readTopics hb hq =>
      -- a reader does not overtake the message loop
      exact hleft (gridlock_frame Iff.rfl fun h => nomatch hq.symm.trans h) id
  | jitterOver hb =>
      refine hleft (gridlock_frame Iff.rfl fun _ => ?_) id
      simp [hb, Broadcast.Unanswered]
  | sendPublish hb =>
      refine hleft (gridlock_frame Iff.rfl fun _ => ?_) id
      simp [hb, Broadcast.Unanswered]
  | publishAnswered hb =>
      refine hleft (gridlock_frame Iff.rfl fun _ => ?_) id
      rw [unanswered_nextTopic, hb]
      rfl
  | endCycle hb =>
      refine hleft (gridlock_frame Iff.rfl fun _ => ?_) id
      simp [hb, Broadcast.Unanswered]

-- ── Who awaits a reply will get one ──────────────────────────────────────────

theorem reply_ne_awaiting (answer : Except String Unit) (k : Call) :
    k.reply answer ≠ .awaiting := by
  cases k <;> simp [Call.reply]

theorem call?_reply (answer : Except String Unit) (b : Broadcast) :
    (b.reply answer).call? = b.call?.map (Call.reply answer) := by
  cases b with
  | publishing topic rest stage => cases stage <;> rfl
  | resting => rfl
  | waitingRead => rfl
  | remainder => rfl

theorem call?_nextTopic (topics : List String) :
    (Broadcast.nextTopic useJitter topics).call? ≠ some .awaiting := by
  cases topics <;> cases useJitter <;> simp [Broadcast.nextTopic, Broadcast.call?]

/-- A reply concerns its owner alone. -/
theorem callsPending_reply {o : Owner} {answer : Except String Unit}
    (hm : .messageLoop ≠ o → s.call = .awaiting → s.Pending .messageLoop)
    (hb : .broadcast ≠ o → s.broadcast.call? = some .awaiting → s.Pending .broadcast) :
    (s.reply answer o).CallsPending := by
  cases o with
  | messageLoop =>
      exact ⟨fun h => absurd h (reply_ne_awaiting answer s.call), hb (by decide)⟩
  | broadcast =>
      refine ⟨hm (by decide), fun h => ?_⟩
      have h' : (s.broadcast.reply answer).call? = some .awaiting := h
      rw [call?_reply, Option.map_eq_some_iff] at h'
      obtain ⟨k, -, hk⟩ := h'
      exact absurd hk (reply_ne_awaiting answer k)
  | dropped => exact ⟨hm (by decide), hb (by decide)⟩

/-- Dropping the sweep takes no command away from the broadcast loop. -/
theorem pending_dropSweep (h : s.Pending .broadcast) : s.dropSweep.Pending .broadcast := by
  have hown : ∀ c : Command, c.owner = .broadcast → c.disown.owner = .broadcast := by
    intro c hc
    simp [Command.disown, hc]
  obtain ⟨c, hmem, hc⟩ | ⟨c, hh, hc⟩ := h
  · exact .inl ⟨c.disown, List.mem_map_of_mem hmem, hown c hc⟩
  · exact .inr ⟨c.disown, by simp only [State.dropSweep, hh], hown c hc⟩

theorem callsPending_step (h : Transition app useJitter s e s') (hp : s.CallsPending) :
    s'.CallsPending := by
  have hsend : ∀ {o : Owner} (c : Command), s.Pending o →
      { s with commands := s.commands ++ [c] }.Pending o := by
    rintro o c (⟨d, hmem, hd⟩ | hh)
    · exact .inl ⟨d, List.mem_append_left _ hmem, hd⟩
    · exact .inr hh
  cases h with
  | take hc hq =>
      rename_i c rest
      have htake : ∀ {o : Owner}, s.Pending o →
          { s with commands := rest, command := .handing c }.Pending o := by
        rintro o (⟨d, hmem, hd⟩ | ⟨d, hh, -⟩)
        · obtain rfl | hmem := List.mem_cons.mp (hq ▸ hmem)
          · exact .inr ⟨d, rfl, hd⟩
          · exact .inl ⟨d, hmem, hd⟩
        · exact nomatch hc.symm.trans hh
      exact ⟨fun h => htake (hp.messageLoop h), fun h => htake (hp.broadcast h)⟩
  | refuse hc hq =>
      rename_i c rest err
      have hrest : ∀ {o : Owner}, o ≠ c.owner → s.Pending o →
          { s with commands := rest }.Pending o := by
        rintro o ho (⟨d, hmem, hd⟩ | ⟨d, hh, -⟩)
        · obtain rfl | hmem := List.mem_cons.mp (hq ▸ hmem)
          · exact absurd hd.symm ho
          · exact .inl ⟨d, hmem, hd⟩
        · exact nomatch hc.symm.trans hh
      exact callsPending_reply (fun ho h => hrest ho (hp.messageLoop h))
        fun ho h => hrest ho (hp.broadcast h)
  | handOver hc hroom =>
      rename_i c
      have hrest : ∀ {o : Owner}, o ≠ c.owner → s.Pending o →
          { s with command := .receiving, requests := s.requests ++ [c.request] }.Pending o := by
        rintro o ho (hmem | ⟨d, hh, hd⟩)
        · exact .inl hmem
        · obtain rfl := CommandTask.handing.inj (hc.symm.trans hh)
          exact absurd hd.symm ho
      exact callsPending_reply (fun ho h => hrest ho (hp.messageLoop h))
        fun ho h => hrest ho (hp.broadcast h)
  | receiveChannel hr hq => exact ⟨nofun, fun h => pending_dropSweep (hp.broadcast h)⟩
  | receiveMessage hr => exact ⟨nofun, fun h => pending_dropSweep (hp.broadcast h)⟩
  | sweeps hr hnc => exact ⟨nofun, hp.broadcast⟩
  | locks hs hr ht => exact ⟨nofun, hp.broadcast⟩
  | registered hfree hnc => exact ⟨nofun, hp.broadcast⟩
  | sendCommand hs =>
      refine ⟨fun _ => .inl ⟨_, List.mem_append_right _ List.mem_cons_self, rfl⟩, fun h => ?_⟩
      exact hsend _ (hp.broadcast h)
  | sendPublish hb =>
      refine ⟨fun h => hsend _ (hp.messageLoop h), fun _ => ?_⟩
      exact .inl ⟨_, List.mem_append_right _ List.mem_cons_self, rfl⟩
  | readTopics hb hq => exact ⟨hp.messageLoop, fun h => absurd h (call?_nextTopic _)⟩
  | publishAnswered hb => exact ⟨hp.messageLoop, fun h => absurd h (call?_nextTopic _)⟩
  | startCycle hb => exact ⟨hp.messageLoop, nofun⟩
  | jitterOver hb => exact ⟨hp.messageLoop, nofun⟩
  | endCycle hb => exact ⟨hp.messageLoop, nofun⟩
  | arrives he hroom => exact ⟨hp.messageLoop, hp.broadcast⟩
  | blocks he hfull => exact ⟨hp.messageLoop, hp.broadcast⟩
  | deliver hroom => exact ⟨hp.messageLoop, hp.broadcast⟩
  | transmit he hq => exact ⟨hp.messageLoop, hp.broadcast⟩
  | pollError he => exact ⟨hp.messageLoop, hp.broadcast⟩
  | backoffOver he => exact ⟨hp.messageLoop, hp.broadcast⟩
  | channelQueued c => exact ⟨hp.messageLoop, hp.broadcast⟩

/-- Every run keeps the commands of the calls that await a reply. -/
theorem callsPending_of_run {es : List Event} {t : State} (h : tasksRun app useJitter es = some t) :
    t.CallsPending := by
  refine EventRun.run_induction (P := fun _ t => t.CallsPending) ?_ ?_ es t h
  · exact ⟨nofun, nofun⟩
  · intro es e t u _ hp hstep
    exact callsPending_step (transition_of_step hstep) hp

-- ── From a gridlock into the circular wait ───────────────────────────────────

/-- The tasks can go on to a circular wait. -/
def Deadlocks (app : App) (useJitter : Bool) (s : State) : Prop :=
  ∃ es t, EventRun.run (step app useJitter) s es = some t ∧ CircularWait t.waits

theorem Deadlocks.of_step {t : State} (h : step app useJitter s e = some t)
    (hd : Deadlocks app useJitter t) : Deadlocks app useJitter s := by
  obtain ⟨es, u, hrun, hc⟩ := hd
  exact ⟨e :: es, u, by rw [EventRun.run_cons, h]; exact hrun, hc⟩

theorem Deadlocks.of_circularWait (h : CircularWait s.waits) : Deadlocks app useJitter s :=
  ⟨[], s, rfl, h⟩

/-- Around the circle of all four. -/
theorem circularWait_of_circle (hE : s.waits .eventLoop = some {.messageLoop})
    (hM : s.waits .messageLoop = some {.broadcast}) (hB : s.waits .broadcast = some {.command})
    (hC : s.waits .command = some {.eventLoop}) : CircularWait s.waits := by
  refine ⟨Set.univ, ⟨.eventLoop, trivial⟩, fun t _ => ?_⟩
  cases t with
  | eventLoop => exact ⟨_, hE, Set.subset_univ _⟩
  | command => exact ⟨_, hC, Set.subset_univ _⟩
  | messageLoop => exact ⟨_, hM, Set.subset_univ _⟩
  | broadcast => exact ⟨_, hB, Set.subset_univ _⟩

/-- In a gridlock the event loop waits for the message loop and the command task for the event
    loop; the circle is closed when the message loop waits for the command task, directly or behind
    the broadcast loop. -/
theorem circularWait_of_gridlock (hg : s.Gridlock)
    (hm : s.waits .messageLoop = some {.command} ∨
      s.waits .messageLoop = some {.broadcast} ∧ s.waits .broadcast = some {.command}) :
    CircularWait s.waits := by
  obtain ⟨⟨msg, he⟩, hin⟩ := hg.inbound
  obtain ⟨⟨c, hc⟩, hreq⟩ := hg.requests
  have hE : s.waits .eventLoop = some {.messageLoop} := by
    simp only [State.waits, he, hin, if_false]
  have hC : s.waits .command = some {.eventLoop} := by
    simp only [State.waits, hc, hreq, if_false]
  obtain hM | ⟨hM, hB⟩ := hm
  · refine ⟨{t | t ≠ .broadcast}, ⟨.eventLoop, by decide⟩, fun t ht => ?_⟩
    cases t with
    | eventLoop => exact ⟨_, hE, by simp⟩
    | command => exact ⟨_, hC, by simp⟩
    | messageLoop => exact ⟨_, hM, by simp⟩
    | broadcast => exact absurd rfl ht
  · exact circularWait_of_circle hE hM hB hC

theorem gridlock_step (hg : s.Gridlock) (h : step app useJitter s e = some s') : s'.Gridlock :=
  (gridlock_step_iff (transition_of_step h)).mpr (.inl hg)

/-- `register_channel` sends its command, if there is room, and waits for good. -/
theorem State.Gridlock.deadlocks_of_subscribing {c : TopicChannel} {now : Instant} (hg : s.Gridlock)
    (hr : s.registering = some (.subscribing c now)) : Deadlocks app useJitter s := by
  have haw := hg.awaits
  simp only [State.AwaitsCommand, hr] at haw
  cases hk : s.call with
  | answered answer => exact absurd hk (haw answer)
  | awaiting =>
      refine .of_circularWait (circularWait_of_gridlock hg (.inl ?_))
      simp only [State.waits, hr, hk, State.callWaits]
  | sending =>
      by_cases hroom : s.commands.length < cmdCapacity
      · have hstep : step app useJitter s .sendCommand = some
            { s with call := .awaiting
                     commands := s.commands ++
                       [⟨.messageLoop, .subscribe c.topic.topic (qosFromU8 c.topic.qos)⟩] } := by
          simp only [step, State.calling, hr, hk, hroom, if_true]
        refine .of_step hstep (.of_circularWait
          (circularWait_of_gridlock (gridlock_step hg hstep) (.inl ?_)))
        simp only [State.waits, hr, State.callWaits]
      · refine .of_circularWait (circularWait_of_gridlock hg (.inl ?_))
        simp only [State.waits, hr, hk, State.callWaits, hroom, if_false]

/-- The broadcast loop, about to publish, sends its command and waits for good. -/
theorem State.Gridlock.deadlocks_of_publishing {c : TopicChannel} {now : Instant} {topic : String}
    {rest : List String} (hg : s.Gridlock) (hr : s.registering = some (.locking c now))
    (hb : s.broadcast = .publishing topic rest (.calling .sending)) :
    Deadlocks app useJitter s := by
  by_cases hroom : s.commands.length < cmdCapacity
  · have hstep : step app useJitter s .sendPublish = some
        { s with broadcast := .publishing topic rest (.calling .awaiting)
                 commands := s.commands ++ [⟨.broadcast, .publish topic⟩] } := by
      simp only [step, hb, hroom, if_true]
    refine .of_step hstep (.of_circularWait
      (circularWait_of_gridlock (gridlock_step hg hstep) (.inr ⟨?_, ?_⟩)))
    · simp only [State.waits, hr, Broadcast.holdsTopics, if_true]
    · simp only [State.waits, State.callWaits]
  · refine .of_circularWait (circularWait_of_gridlock hg (.inr ⟨?_, ?_⟩))
    · simp only [State.waits, hr, hb, Broadcast.holdsTopics, if_true]
    · simp only [State.waits, hb, State.callWaits, hroom, if_false]

theorem State.Gridlock.deadlocks_of_jitter {c : TopicChannel} {now : Instant} {topic : String}
    {rest : List String} (hg : s.Gridlock) (hr : s.registering = some (.locking c now))
    (hb : s.broadcast = .publishing topic rest .jitter) : Deadlocks app useJitter s := by
  have hstep : step app useJitter s .jitterOver = some
      { s with broadcast := .publishing topic rest (.calling .sending) } := by
    simp only [step, hb]
  exact .of_step hstep ((gridlock_step hg hstep).deadlocks_of_publishing hr rfl)

/-- A broadcast loop that holds the topics and has calls to make gets stuck at the next one. -/
theorem State.Gridlock.deadlocks_of_locking {c : TopicChannel} {now : Instant} (hg : s.Gridlock)
    (hr : s.registering = some (.locking c now)) : Deadlocks app useJitter s := by
  have haw := hg.awaits
  simp only [State.AwaitsCommand, hr] at haw
  cases hb : s.broadcast with
  | resting => exact (hb ▸ haw).elim
  | waitingRead => exact (hb ▸ haw).elim
  | remainder => exact (hb ▸ haw).elim
  | publishing topic rest stage =>
      cases stage with
      | jitter => exact hg.deadlocks_of_jitter hr hb
      | calling call =>
          cases call with
          | sending => exact hg.deadlocks_of_publishing hr hb
          | awaiting =>
              refine .of_circularWait (circularWait_of_gridlock hg (.inr ⟨?_, ?_⟩))
              · simp only [State.waits, hr, hb, Broadcast.holdsTopics, if_true]
              · simp only [State.waits, hb, State.callWaits]
          | answered answer =>
              have hstep : step app useJitter s .publishAnswered = some
                  { s with broadcast := .nextTopic useJitter rest } := by
                simp only [step, hb]
              have hg' := gridlock_step hg hstep
              refine .of_step hstep ?_
              cases rest with
              | nil =>
                  rw [hb] at haw
                  exact absurd rfl haw
              | cons topic' rest =>
                  cases useJitter with
                  | false => exact hg'.deadlocks_of_publishing hr rfl
                  | true => exact hg'.deadlocks_of_jitter hr rfl

/-- From a gridlock the tasks run into a circular wait. -/
theorem State.Gridlock.deadlocks (hg : s.Gridlock) : Deadlocks app useJitter s := by
  cases hr : s.registering with
  | none => exact absurd hg (not_gridlock_of_selecting hr)
  | some r =>
      cases r with
      | subscribing c now => exact hg.deadlocks_of_subscribing hr
      | locking c now => exact hg.deadlocks_of_locking hr

theorem gridlock_run {es : List Event} (hg : s.Gridlock) {t : State}
    (h : EventRun.run (step app useJitter) s es = some t) : t.Gridlock :=
  EventRun.run_induction (P := fun _ t => t.Gridlock) hg
    (fun _ _ _ _ _ hg hstep => gridlock_step hg hstep) es t h

end Steps

-- ── Runs without a circular wait ─────────────────────────────────────────────

/-- A run none of whose events completes a gridlock has no circular wait in any of its states; a
    run with such an event can only go on in the gridlock, and into a circular wait. -/
theorem circularWait_free {app : App} {useJitter : Bool} {es : List Event} {t : State}
    (hrun : tasksRun app useJitter es = some t) :
    (EventRun.EachStep (step app useJitter) (.init app) es (fun s e => ¬ s.Completes e) →
      EventRun.Throughout (step app useJitter) (.init app) es fun s => ¬ CircularWait s.waits) ∧
    (¬ EventRun.EachStep (step app useJitter) (.init app) es (fun s e => ¬ s.Completes e) →
      t.Gridlock ∧ Deadlocks app useJitter t) := by
  constructor
  · intro hC p q hes s hs
    have hclear := EventRun.throughout_of_eachStep (I := fun _ _ => True)
      (J := fun s => ¬ s.Gridlock) hC (fun _ _ _ _ _ => trivial)
      (not_gridlock_of_selecting rfl) ?_ p q hes s hs
    · exact not_circularWait_of_not_gridlock (callsPending_of_run hs) hclear
    · intro _ e t u _ _ hJ hc hstep hg
      exact ((gridlock_step_iff (transition_of_step hstep)).mp hg).elim hJ hc
  · intro hC
    simp only [EventRun.EachStep, not_forall, not_not] at hC
    obtain ⟨p, e, q, hes, s, hs, hcomp⟩ := hC
    rw [hes] at hrun
    obtain ⟨s', u, hs', hstep, hrest⟩ := EventRun.run_split hrun
    obtain rfl : s = s' := Option.some.inj (hs.symm.trans hs')
    have hg : t.Gridlock :=
      gridlock_run ((gridlock_step_iff (transition_of_step hstep)).mpr (.inr hcomp)) hrest
    exact ⟨hg, hg.deadlocks⟩

/-- A node without a gateway of its own. -/
def node : App where
  serverUrl     := "http://hamlet"
  ownGatewayUrl := none

/-- A message arrives while the message loop is registering a beacon. -/
def oneMessage : List Event :=
  [.channelQueued (listenChannel "b1"), .receiveChannel 0,
    .publishArrives { topic := "registration", payload := .raw "" }, .sendCommand,
    .takeCommand none]

/-- The inbound queue has room all the way. -/
theorem oneMessage_clear :
    EventRun.EachStep (step node true) (.init node) oneMessage fun s e => ¬ s.Completes e := by
  refine EventRun.eachStep_cons id fun t ht => ?_
  obtain rfl := Option.some.inj ht
  refine EventRun.eachStep_cons ?_ fun t ht => ?_
  · rintro ⟨⟨⟨msg, hm⟩, -⟩, -, -⟩
    exact nomatch hm
  obtain rfl := Option.some.inj ht
  refine EventRun.eachStep_cons (fun h => h.1 (by decide)) fun t ht => ?_
  obtain rfl := Option.some.inj ht
  refine EventRun.eachStep_cons id fun t ht => ?_
  obtain rfl := Option.some.inj ht
  refine EventRun.eachStep_cons ?_ fun t _ => EventRun.eachStep_nil t _
  rintro ⟨-, ⟨⟨msg, hm⟩, -⟩, -⟩
  exact nomatch hm

theorem circularWait_free_oneMessage :
    EventRun.Throughout (step node true) (.init node) oneMessage fun s => ¬ CircularWait s.waits :=
  (circularWait_free (t := (tasksRun node true oneMessage).get (by decide)) (by simp)).1
    oneMessage_clear

-- ── A run into the circular wait ─────────────────────────────────────────────

/-- A handshake queues the two channels of a beacon. -/
def handshake (id : String) : List Event :=
  [.channelQueued (listenChannel id), .channelQueued (broadcastChannel id)]

/-- The message loop subscribes to the listen topic of a new beacon. -/
def subscribing : List Event :=
  [.receiveChannel 0, .sendCommand, .takeCommand none, .handOver, .callAnswered, .transmit]

/-- One publish of the broadcast loop. -/
def publishing : List Event :=
  [.jitterOver, .sendPublish, .takeCommand none, .handOver, .publishAnswered]

def elevenBeacons : List String :=
  ["b1", "b2", "b3", "b4", "b5", "b6", "b7", "b8", "b9", "b10", "b11"]

/-- Eleven beacons are registered and a broadcast cycle begins. A twelfth beacon lets the message
    loop wait for the write lock; 65 messages fill the inbound queue and stop the event loop; ten
    publishes fill the request queue, and the eleventh has nowhere to go. -/
def jammedRun : List Event :=
  [.transmit, .transmit] ++
    elevenBeacons.flatMap (fun id =>
      handshake id ++ subscribing ++ [.receiveChannel 0, .lockTopics]) ++
    [.startCycle, .readTopics] ++
    handshake "b12" ++ subscribing ++ [.receiveChannel 0] ++
    List.replicate 65 (.publishArrives { topic := "b1/rec", payload := .raw "" }) ++
    (List.replicate 10 publishing).flatten ++ [.jitterOver, .sendPublish, .takeCommand none]

set_option maxRecDepth 4000 in
/-- All four tasks wait for each other. -/
theorem jammedRun_deadlocks :
    ∃ t, tasksRun node true jammedRun = some t ∧ CircularWait t.waits := by
  have hwaits : (tasksRun node true jammedRun).map
      (fun t => (t.waits .eventLoop, t.waits .messageLoop, t.waits .broadcast, t.waits .command)) =
      some (some {.messageLoop}, some {.broadcast}, some {.command}, some {.eventLoop}) := by
    decide +kernel
  obtain ⟨t, ht, hcircle⟩ := Option.map_eq_some_iff.mp hwaits
  simp only [Prod.mk.injEq] at hcircle
  obtain ⟨hE, hM, hB, hC⟩ := hcircle
  exact ⟨t, ht, circularWait_of_circle hE hM hB hC⟩

end HamletDeadlock
