import Hamlet.Lib.ServiceLineProofs
import Hamlet.PipelineProofs

/-!
# The point of no return

The four tasks of `HamletDeadlock` can end in a circular wait. Long before they do, the outcome may
be settled: while the event loop waits for room in the inbound queue nothing is sent to the broker,
so that every command handed over fills the request queue for good, and the message loop takes
nothing from the inbound queue before `register_channel` returns.

`turns` counts the commands that the command task has to hand over before `register_channel`
returns. A state is `Stuck` when the event loop is blocked and the request queue has less room than
that. `recoverable_iff` says that this is the exact border: a stuck state stays stuck whatever
happens, and from every other one the tasks can handle all that is on its way.
-/

namespace HamletDrain

open EventRun HamletDeadlock HamletPipeline
open HamletRegistry hiding Event step

-- ── The line in front of the command task ────────────────────────────────────

/-- Whose commands the command task has in front of it, the one it has taken first. -/
def line (s : State) : List Owner :=
  (match s.command with
    | .handing c => [c.owner]
    | .receiving => []) ++ s.commands.map Command.owner

def awaits : Call → Bool
  | .awaiting => true
  | _         => false

/-- The broadcast loop awaits the answer of a publish call. -/
def broadcastAwaits (b : Broadcast) : Bool := b.call?.any awaits

/-- Whoever awaits an answer has one command in line, and nobody else has any. -/
structure Lined (s : State) : Prop where
  idle        : s.calling = none → s.call = .sending
  messageLoop : (line s).count .messageLoop = (awaits s.call).toNat
  broadcast   : (line s).count .broadcast = (broadcastAwaits s.broadcast).toNat

section Line

variable {app : App} {useJitter : Bool} {s s' : State} {e : Event}

theorem mem_iff_of_count {o : Owner} {os : List Owner} {b : Bool} (h : os.count o = b.toNat) :
    o ∈ os ↔ b = true := by
  rw [← List.count_pos_iff, h]
  cases b <;> decide

theorem Lined.mem_messageLoop (h : Lined s) : .messageLoop ∈ line s ↔ awaits s.call = true :=
  mem_iff_of_count h.messageLoop

theorem Lined.mem_broadcast (h : Lined s) :
    .broadcast ∈ line s ↔ broadcastAwaits s.broadcast = true :=
  mem_iff_of_count h.broadcast

theorem call_of_awaits {call : Call} (h : awaits call = true) : call = .awaiting := by
  cases call with
  | awaiting => rfl
  | sending | answered _ => cases h

@[simp] theorem awaits_reply (answer : Except String Unit) (call : Call) :
    awaits (call.reply answer) = false := by
  cases call <;> rfl

@[simp] theorem broadcastAwaits_reply (answer : Except String Unit) (b : Broadcast) :
    broadcastAwaits (b.reply answer) = false := by
  rw [broadcastAwaits, call?_reply]
  cases b.call? with
  | none => rfl
  | some call => exact awaits_reply answer call

@[simp] theorem broadcastAwaits_nextTopic (topics : List String) :
    broadcastAwaits (.nextTopic useJitter topics) = false := by
  cases topics <;> cases useJitter <;> rfl

@[simp] theorem line_reply (answer : Except String Unit) (o : Owner) :
    line (s.reply answer o) = line s := by
  cases o <;> rfl

/-- A command leaves the line, and its owner has the answer. -/
theorem lined_reply {o : Owner} (answer : Except String Unit)
    (hidle : s.calling = none → s.call = .sending)
    (hm : (o :: line s).count .messageLoop = (awaits s.call).toNat)
    (hb : (o :: line s).count .broadcast = (broadcastAwaits s.broadcast).toNat) :
    Lined (s.reply answer o) := by
  have hone : ∀ {n : ℕ} {b : Bool}, n + 1 = b.toNat → n = 0 ∧ b = true := by
    intro n b h
    cases b <;> simp at h ⊢
    exact h
  cases o with
  | messageLoop =>
      rw [List.count_cons_self] at hm
      obtain ⟨hnone, hawaits⟩ := hone hm
      refine ⟨?_, ?_, ?_⟩
      · intro hcalling
        rw [hidle hcalling] at hawaits
        cases hawaits
      · show (line s).count .messageLoop = (awaits (s.call.reply answer)).toNat
        rw [hnone, awaits_reply]
        rfl
      · rw [List.count_cons_of_ne (by decide)] at hb
        exact hb
  | broadcast =>
      rw [List.count_cons_self] at hb
      obtain ⟨hnone, -⟩ := hone hb
      refine ⟨hidle, ?_, ?_⟩
      · rw [List.count_cons_of_ne (by decide)] at hm
        exact hm
      · show (line s).count .broadcast = (broadcastAwaits (s.broadcast.reply answer)).toNat
        rw [hnone, broadcastAwaits_reply]
        rfl
  | dropped =>
      rw [List.count_cons_of_ne (by decide)] at hm hb
      exact ⟨hidle, hm, hb⟩

/-- The message loop goes on with no call of its own under way. -/
theorem Lined.settle (h : Lined s) (hk : awaits s.call = false) (loop : LoopState)
    (registering : Option Registering) :
    Lined { s with loop := loop, registering := registering, call := .sending } := by
  refine ⟨fun _ => rfl, ?_, h.broadcast⟩
  have hm := h.messageLoop
  rw [hk] at hm
  exact hm

/-- Whose a command is when the sweep has been dropped. -/
def abandoned : Owner → Owner
  | .messageLoop => .dropped
  | o            => o

theorem owner_disown (c : Command) : c.disown.owner = abandoned c.owner := by
  rw [Command.disown]
  cases ho : c.owner <;> simp [ho, abandoned]

/-- The commands of a dropped sweep stay in line. -/
theorem line_dropSweep : line s.dropSweep = (line s).map abandoned := by
  have hcommands : (s.commands.map Command.disown).map Command.owner =
      (s.commands.map Command.owner).map abandoned := by
    rw [List.map_map, List.map_map]
    exact List.map_congr_left fun c _ => owner_disown c
  rw [line, line, List.map_append, ← hcommands]
  cases hc : s.command with
  | receiving => simp only [State.dropSweep, hc]; rfl
  | handing c =>
      simp only [State.dropSweep, hc, owner_disown]
      rfl

theorem count_abandoned (os : List Owner) :
    (os.map abandoned).count .messageLoop = 0 ∧
      (os.map abandoned).count .broadcast = os.count .broadcast := by
  induction os with
  | nil => exact ⟨rfl, rfl⟩
  | cons o os ih => cases o <;> simpa [abandoned] using ih

/-- Nobody waits for the commands of a dropped sweep. -/
theorem Lined.dropSweep (h : Lined s) : Lined s.dropSweep := by
  obtain ⟨hm, hb⟩ := count_abandoned (line s)
  refine ⟨fun _ => rfl, ?_, ?_⟩
  · rw [line_dropSweep, hm]
    rfl
  · rw [line_dropSweep, hb]
    exact h.broadcast

/-- The command task is done with the command in front. -/
theorem Lined.served {o : Owner} {s₀ : State} (h : Lined s) (hline : line s = o :: line s₀)
    (hcalling : s₀.calling = s.calling) (hcall : s₀.call = s.call)
    (hb : s₀.broadcast = s.broadcast) (answer : Except String Unit) :
    Lined (s₀.reply answer o) := by
  refine lined_reply answer ?_ ?_ ?_
  · rw [hcalling, hcall]
    exact h.idle
  · rw [← hline, hcall]
    exact h.messageLoop
  · rw [← hline, hb]
    exact h.broadcast

theorem line_send (s : State) (c : Command) :
    line { s with commands := s.commands ++ [c] } = line s ++ [c.owner] := by
  rw [line, line, List.map_append, List.append_assoc]
  rfl

theorem line_taken {c : Command} {rest : List Command} (hc : s.command = .receiving)
    (hq : s.commands = c :: rest) : line s = c.owner :: line { s with commands := rest } := by
  simp only [line, hc, hq]
  rfl

theorem line_take {c : Command} {rest : List Command} (hc : s.command = .receiving)
    (hq : s.commands = c :: rest) :
    line { s with commands := rest, command := .handing c } = line s := by
  simp only [line, hc, hq]
  rfl

theorem line_handing {c : Command} (hc : s.command = .handing c)
    (requests : List HamletSubscription.Request) :
    line s = c.owner :: line { s with command := .receiving, requests := requests } := by
  simp only [line, hc]
  rfl

/-- A sweep that waits for its next tick, or for the lock, has no call under way. -/
theorem calling_of_sweep {loop : LoopState} {x : HamletRegistry.Event} (hr : s.registering = none)
    (hx : x.dropsSweep = false) (hne : ∀ answer, x ≠ .unsubscribed answer)
    (hloop : HamletRegistry.step app s.loop x = some loop) : s.calling = none := by
  have hsweep : ∀ id record rest, s.loop.sweep ≠ .unsubscribing id record rest := by
    intro id record rest hfut
    cases x with
    | channel c now answer => cases hx
    | message msg now => cases hx
    | unsubscribed answer => exact hne answer rfl
    | tick now stale | topicsLocked => simp [HamletRegistry.step, hfut] at hloop
  rw [State.calling, hr]
  cases hfut : s.loop.sweep with
  | waitingTick | lockingTopics _ _ _ => rfl
  | unsubscribing id record rest => exact absurd hfut (hsweep id record rest)

theorem Lined.not_awaits (h : Lined s) (hcalling : s.calling = none) : awaits s.call = false := by
  rw [h.idle hcalling]
  rfl

theorem lined_step (h : step app useJitter s e = some s') (hs : Lined s) : Lined s' := by
  cases moves_of_step h with
  | take hc hq =>
      refine ⟨hs.idle, ?_, ?_⟩
      · rw [line_take hc hq]
        exact hs.messageLoop
      · rw [line_take hc hq]
        exact hs.broadcast
  | refuse hc hq => exact hs.served (line_taken hc hq) rfl rfl rfl _
  | handOver hc hroom => exact hs.served (line_handing hc _) rfl rfl rfl _
  | receiveChannel hr hq =>
      exact ⟨fun _ => rfl, hs.dropSweep.messageLoop, hs.dropSweep.broadcast⟩
  | receiveMessage hr hq hloop =>
      exact ⟨fun _ => rfl, hs.dropSweep.messageLoop, hs.dropSweep.broadcast⟩
  | tick hr hloop =>
      exact hs.settle (hs.not_awaits (calling_of_sweep hr rfl (by simp) hloop)) _ _
  | sweepLocked hfree hr hloop =>
      exact hs.settle (hs.not_awaits (calling_of_sweep hr rfl (by simp) hloop)) _ _
  | locks hk hr ht => exact hs.settle (by rw [hk]; rfl) _ _
  | subscribed hk hr hne hloop => exact hs.settle (by rw [hk]; rfl) _ _
  | unsubscribed hk hr hloop => exact hs.settle (by rw [hk]; rfl) _ _
  | locked hfree hr hloop =>
      exact hs.settle (hs.not_awaits (by simp only [State.calling, hr])) _ _
  | sendCommand hcalling hk hroom =>
      have hnone := hs.messageLoop
      rw [hk] at hnone
      refine ⟨fun hcalling' => ?_, ?_, ?_⟩
      · cases hcalling.symm.trans hcalling'
      · refine (congrArg (List.count .messageLoop) (line_send s _)).trans ?_
        rw [List.count_append, hnone]
        rfl
      · refine (congrArg (List.count .broadcast) (line_send s _)).trans ?_
        rw [List.count_append, hs.broadcast]
        rfl
  | sendPublish hb hroom =>
      have hnone := hs.broadcast
      rw [hb] at hnone
      refine ⟨hs.idle, ?_, ?_⟩
      · refine (congrArg (List.count .messageLoop) (line_send s _)).trans ?_
        rw [List.count_append, hs.messageLoop]
        rfl
      · refine (congrArg (List.count .broadcast) (line_send s _)).trans ?_
        rw [List.count_append, hnone]
        rfl
  | startCycle hb | jitterOver hb | endCycle hb =>
      have hnone := hs.broadcast
      rw [hb] at hnone
      exact ⟨hs.idle, hs.messageLoop, hnone⟩
  | readTopics hb hq | publishAnswered hb =>
      have hnone := hs.broadcast
      rw [hb] at hnone
      refine ⟨hs.idle, hs.messageLoop, ?_⟩
      rw [broadcastAwaits_nextTopic]
      exact hnone
  | arrives _ _ | blocks _ _ | deliver _ _ | transmit _ _ | pollError _ | backoffOver _
  | channelQueued _ => exact ⟨hs.idle, hs.messageLoop, hs.broadcast⟩

theorem lined_run {es : List Event} (h : tasksRun app useJitter es = some s) : Lined s :=
  run_induction (P := fun _ s => Lined s) ⟨fun _ => rfl, rfl, rfl⟩
    (fun _ _ _ _ _ hs hstep => lined_step hstep hs) es s h

end Line

-- ── Stuck ────────────────────────────────────────────────────────────────────

/-- The commands that a call of the message loop has to send. -/
def unsent : Call → ℕ
  | .sending => 1
  | _        => 0

/-- The commands to be handed over before `register_channel` returns: up to the one of its own call,
    or up to the last one of the broadcast loop that holds the topics. -/
def turns (s : State) : ℕ :=
  match s.registering with
  | none => 0
  | some (.subscribing ..) =>
      ServiceLine.turns (line s) .messageLoop (unsent s.call) (awaits s.call)
  | some (.locking ..) =>
      ServiceLine.turns (line s) .broadcast (unpublished s.broadcast).length
        (broadcastAwaits s.broadcast)

/-- The requests that the client takes while nothing is sent. -/
def room (s : State) : ℕ := requestCapacity - s.requests.length

/-- The event loop waits for the message loop, and the message loop for more commands than the
    client takes meanwhile. -/
structure Stuck (s : State) : Prop where
  inbound  : s.InboundBlocked
  requests : room s < turns s

section Stuck

variable {app : App} {useJitter : Bool} {s s' : State} {e : Event}

theorem turns_selecting (hr : s.registering = none) : turns s = 0 := by
  simp only [turns, hr]

theorem turns_subscribing {c : TopicChannel} {now : Instant}
    (hr : s.registering = some (.subscribing c now)) :
    turns s = ServiceLine.turns (line s) .messageLoop (unsent s.call) (awaits s.call) := by
  simp only [turns, hr]

theorem turns_locking {c : TopicChannel} {now : Instant}
    (hr : s.registering = some (.locking c now)) :
    turns s = ServiceLine.turns (line s) .broadcast (unpublished s.broadcast).length
      (broadcastAwaits s.broadcast) := by
  simp only [turns, hr]

/-- What the count depends on. -/
theorem turns_congr (hr : s'.registering = s.registering) (hline : line s' = line s)
    (hcall : s'.call = s.call) (hrest : unpublished s'.broadcast = unpublished s.broadcast)
    (hb : broadcastAwaits s'.broadcast = broadcastAwaits s.broadcast) : turns s' = turns s := by
  rw [turns, turns, hr, hline, hcall, hrest, hb]

/-- A broadcast loop without the guard publishes nothing. -/
theorem idle_of_free {b : Broadcast} (h : b.holdsTopics = false) :
    unpublished b = [] ∧ broadcastAwaits b = false := by
  cases b with
  | resting | waitingRead => exact ⟨rfl, rfl⟩
  | publishing topic rest stage => cases h
  | remainder => cases h

/-- Every command that is answered is one less, whoever sent it. -/
theorem turns_served {o : Owner} {s₀ : State} (hs : Lined s) (hline : line s = o :: line s₀)
    (hr : s₀.registering = s.registering) (hcall : s₀.call = s.call)
    (hb : s₀.broadcast = s.broadcast) (answer : Except String Unit) :
    turns (s₀.reply answer o) = turns s - 1 := by
  have hr' : (s₀.reply answer o).registering = s.registering :=
    (untouched_reply answer o).registering.trans hr
  cases hreg : s.registering with
  | none =>
      rw [hreg] at hr'
      rw [turns_selecting hreg, turns_selecting hr']
  | some r =>
      rw [hreg] at hr'
      cases r with
      | subscribing c now =>
          rw [turns_subscribing hreg, turns_subscribing hr', line_reply, hline, ← hcall]
          cases o with
          | messageLoop =>
              have hawaits := hs.mem_messageLoop.mp (by rw [hline]; exact List.mem_cons_self)
              simp only [State.reply, hcall, call_of_awaits hawaits]
              exact ServiceLine.turns_serve_self
          | broadcast | dropped => exact ServiceLine.turns_serve_other (by decide)
      | locking c now =>
          rw [turns_locking hreg, turns_locking hr', line_reply, (unpublished_reply answer o).1,
            hline, ← hb]
          cases o with
          | broadcast =>
              have hawaits := hs.mem_broadcast.mp (by rw [hline]; exact List.mem_cons_self)
              rw [hb, hawaits, ← hb,
                show broadcastAwaits (s₀.reply answer .broadcast).broadcast = false from
                  broadcastAwaits_reply answer s₀.broadcast]
              exact ServiceLine.turns_serve_self
          | messageLoop | dropped => exact ServiceLine.turns_serve_other (by decide)

theorem Stuck.registering (h : Stuck s) : s.registering ≠ none := by
  intro hr
  have hlt := h.requests
  rw [turns_selecting hr] at hlt
  exact absurd hlt (Nat.not_lt_zero _)

theorem Stuck.not_polling (h : Stuck s) : s.eventLoop ≠ .polling := by
  obtain ⟨msg, he⟩ := h.inbound.1
  rw [he]
  simp

theorem Stuck.turns_pos (h : Stuck s) : 0 < turns s := Nat.lt_of_le_of_lt (Nat.zero_le _) h.requests

/-- A step that leaves the two queues of the client alone, and brings no turn nearer. -/
theorem Stuck.mono (h : Stuck s) (he : s'.eventLoop = s.eventLoop) (hin : s'.inbound = s.inbound)
    (hreq : s'.requests = s.requests) (hturns : turns s ≤ turns s') : Stuck s' := by
  refine ⟨?_, ?_⟩
  · rw [State.InboundBlocked, he, hin]
    exact h.inbound
  · rw [room, hreq]
    exact Nat.lt_of_lt_of_le h.requests hturns

/-- Still stuck, with the same messages in front of the message loop. -/
structure StaysStuck (s s' : State) : Prop where
  stuck    : Stuck s'
  inFlight : inFlight s' = inFlight s

theorem Stuck.wait (h : Stuck s) (he : s'.eventLoop = s.eventLoop) (hin : s'.inbound = s.inbound)
    (hreq : s'.requests = s.requests) (hturns : turns s ≤ turns s') : StaysStuck s s' :=
  ⟨h.mono he hin hreq hturns, by rw [HamletPipeline.inFlight, he, hin, HamletPipeline.inFlight]⟩

/-- The message loop sends its own command. -/
theorem turns_sendCommand {c : TopicChannel} {now : Instant} (hs : Lined s)
    (hr : s.registering = some (.subscribing c now))
    (hr' : s'.registering = some (.subscribing c now))
    (hline : line s' = line s ++ [.messageLoop]) (hk : s.call = .sending)
    (hk' : s'.call = .awaiting) : turns s' = turns s := by
  have hnone : Owner.messageLoop ∉ line s := by
    rw [hs.mem_messageLoop, hk]
    decide
  rw [turns_subscribing hr, turns_subscribing hr', hline, hk, hk']
  exact ServiceLine.turns_send hnone

/-- The broadcast loop sends a command: a turn that counted already, if the message loop waits for
    the guard. -/
theorem turns_sendPublish {topic : String} {rest : List String} {c : TopicChannel} {now : Instant}
    (hs : Lined s) (hr : s.registering = some (.locking c now))
    (hr' : s'.registering = some (.locking c now)) (hline : line s' = line s ++ [.broadcast])
    (hb : s.broadcast = .publishing topic rest (.calling .sending))
    (hb' : s'.broadcast = .publishing topic rest (.calling .awaiting)) : turns s' = turns s := by
  have hnone : Owner.broadcast ∉ line s := by
    rw [hs.mem_broadcast, hb]
    exact Bool.false_ne_true
  rw [turns_locking hr, turns_locking hr', hline, hb, hb']
  exact ServiceLine.turns_send hnone

/-- Whoever joins the line does so behind the message loop. -/
theorem turns_le_join {o : Owner} {c : TopicChannel} {now : Instant} (hs : Lined s)
    (hr : s.registering = some (.subscribing c now))
    (hr' : s'.registering = some (.subscribing c now)) (hline : line s' = line s ++ [o])
    (hk : s'.call = s.call) : turns s ≤ turns s' := by
  rw [turns_subscribing hr, turns_subscribing hr', hline, hk]
  exact ServiceLine.turns_le_join hs.mem_messageLoop.mpr

/-- The client refuses a command, which then takes no room. -/
def refuses : Event → Bool
  | .takeCommand (some _) => true
  | _                     => false

/-- The command task hands a command over: one turn less, and one request more. -/
theorem stuck_handOver_iff {c : Command} (hs : Lined s) (hc : s.command = .handing c)
    (hroom : s.requests.length < requestCapacity) :
    Stuck ({ s with command := .receiving, requests := s.requests ++ [c.request] }.reply
      (.ok ()) c.owner) ↔ Stuck s := by
  have hturns := turns_served hs (line_handing hc (s.requests ++ [c.request])) rfl rfl rfl (.ok ())
  have hrest : ∀ o : Owner, State.InboundBlocked (State.reply
        { s with command := .receiving, requests := s.requests ++ [c.request] } (.ok ()) o) =
          s.InboundBlocked ∧
      room (State.reply
        { s with command := .receiving, requests := s.requests ++ [c.request] } (.ok ()) o) =
          requestCapacity - (s.requests.length + 1) := by
    intro o
    cases o with
    | messageLoop | broadcast | dropped =>
        exact ⟨rfl, congrArg (requestCapacity - ·) List.length_append⟩
  obtain ⟨hin, hroom'⟩ := hrest c.owner
  constructor
  · rintro ⟨hblocked, hlt⟩
    rw [hin] at hblocked
    rw [hturns, hroom'] at hlt
    exact ⟨hblocked, by rw [room]; omega⟩
  · rintro ⟨hblocked, hlt⟩
    rw [room] at hlt
    refine ⟨by rw [hin]; exact hblocked, ?_⟩
    rw [hturns, hroom']
    omega

/-- **A stuck state stays stuck**, whatever arrives and whoever moves, unless the client refuses a
    command. -/
theorem stuck_step (h : step app useJitter s e = some s') (hs : Lined s) (hstuck : Stuck s)
    (he : refuses e = false) : StaysStuck s s' := by
  have hpos := hstuck.turns_pos
  cases moves_of_step h with
  | arrives hpoll _ | blocks hpoll _ | transmit hpoll _ | pollError hpoll =>
      exact absurd hpoll hstuck.not_polling
  | deliver _ hroom => exact absurd hroom hstuck.inbound.2
  | backoffOver hback =>
      obtain ⟨msg, hsend⟩ := hstuck.inbound.1
      cases hback.symm.trans hsend
  | take hc hq =>
      refine hstuck.wait rfl rfl rfl (Eq.ge ?_)
      exact turns_congr rfl (line_take hc hq) rfl rfl rfl
  | refuse hc hq => cases he
  | handOver hc hroom =>
      refine ⟨(stuck_handOver_iff hs hc hroom).mpr hstuck, ?_⟩
      obtain ⟨-, -, hin, hheld, -⟩ := untouched_reply _ _
      rw [inFlight, hin, hheld]
      rfl
  | channelQueued hroom =>
      refine hstuck.wait rfl rfl rfl (Eq.ge ?_)
      exact turns_congr rfl rfl rfl rfl rfl
  | receiveChannel hr _ | receiveMessage hr _ _ | tick hr _ | unsubscribed _ hr _
  | sweepLocked _ hr _ => exact absurd hr hstuck.registering
  | sendCommand hcalling hk hroom =>
      cases hr : s.registering with
      | none => exact absurd hr hstuck.registering
      | some r =>
          cases r with
          | locking c now =>
              simp only [State.calling, hr] at hcalling
              cases hcalling
          | subscribing c now =>
              refine hstuck.wait rfl rfl rfl (Eq.ge ?_)
              exact turns_sendCommand hs hr rfl (line_send s _) hk rfl
  | locks hk hr _ | subscribed hk hr _ _ =>
      rw [turns_subscribing hr, hk] at hpos
      cases hpos
  | locked hfree hr hloop =>
      obtain ⟨hnone, hidle⟩ := idle_of_free hfree
      rw [turns_locking hr, hnone, hidle] at hpos
      cases hpos
  | startCycle hb | endCycle hb | jitterOver hb =>
      refine hstuck.wait rfl rfl rfl (Eq.ge ?_)
      exact turns_congr rfl rfl rfl (by rw [hb]; rfl) (by rw [hb]; rfl)
  | publishAnswered hb =>
      refine hstuck.wait rfl rfl rfl (Eq.ge ?_)
      refine turns_congr rfl rfl rfl ?_ ?_
      · rw [unpublished_nextTopic, hb]
        rfl
      · rw [broadcastAwaits_nextTopic, hb]
        rfl
  | readTopics hb hq =>
      -- a reader does not overtake the message loop, so that this is a subscribe call
      cases hr : s.registering with
      | none => exact absurd hr hstuck.registering
      | some r =>
          cases r with
          | locking c now =>
              simp only [State.queuesWrite, hr] at hq
              cases hq
          | subscribing c now =>
              refine hstuck.wait rfl rfl rfl (Eq.ge ?_)
              rw [turns_subscribing hr]
              exact turns_subscribing rfl
  | sendPublish hb hroom =>
      cases hr : s.registering with
      | none => exact absurd hr hstuck.registering
      | some r =>
          cases r with
          | subscribing c now =>
              refine hstuck.wait rfl rfl rfl ?_
              exact turns_le_join hs hr rfl (line_send s _) rfl
          | locking c now =>
              refine hstuck.wait rfl rfl rfl (Eq.ge ?_)
              exact turns_sendPublish hs hr rfl (line_send s _) hb rfl

theorem stuck_run {es : List Event} {t : State} (hs : Lined s) (hstuck : Stuck s)
    (h : run (HamletDeadlock.step app useJitter) s es = some t)
    (hes : ∀ e ∈ es, refuses e = false) : StaysStuck s t := by
  revert hes
  have hboth := run_induction
    (P := fun es t => (∀ e ∈ es, refuses e = false) → Lined t ∧ StaysStuck s t)
    (fun _ => ⟨hs, hstuck, rfl⟩) ?_ es t h
  · exact fun hes => (hboth hes).2
  · intro es e t u _ ih hstep hes
    obtain ⟨hlined, hstays⟩ := ih fun x hx => hes x (List.mem_append_left _ hx)
    have hnext := stuck_step hstep hlined hstays.stuck
      (hes e (List.mem_append_right _ List.mem_cons_self))
    exact ⟨lined_step hstep hlined, hnext.stuck, hnext.inFlight.trans hstays.inFlight⟩

/-- A gridlock is the last stage of it: the client has no room at all. -/
theorem stuck_of_gridlock (hg : s.Gridlock) : Stuck s := by
  refine ⟨hg.inbound, ?_⟩
  have hfull := hg.requests.2
  have hroom : room s = 0 := by
    rw [room]
    omega
  rw [hroom]
  have hawaits := hg.awaits
  cases hr : s.registering with
  | none => simp only [State.AwaitsCommand, hr] at hawaits
  | some r =>
      cases r with
      | subscribing c now =>
          simp only [State.AwaitsCommand, hr] at hawaits
          rw [turns_subscribing hr, ServiceLine.turns_pos_iff]
          cases hk : s.call with
          | sending => exact .inl (by decide)
          | awaiting => exact .inr rfl
          | answered answer => exact absurd hk (hawaits answer)
      | locking c now =>
          simp only [State.AwaitsCommand, hr] at hawaits
          rw [turns_locking hr, ServiceLine.turns_pos_iff]
          cases hb : s.broadcast with
          | resting | waitingRead | remainder => exact (hb ▸ hawaits).elim
          | publishing topic rest stage =>
              cases stage with
              | jitter => exact .inl (Nat.succ_ne_zero _)
              | calling call =>
                  cases call with
                  | sending => exact .inl (Nat.succ_ne_zero _)
                  | awaiting => exact .inr rfl
                  | answered answer =>
                      rw [hb] at hawaits
                      exact .inl fun hnil => hawaits (List.length_eq_zero_iff.mp hnil)

end Stuck

-- ── What is left to do ───────────────────────────────────────────────────────

def callWork : Call → ℕ
  | .sending => 6
  | _        => 2

def registerWork (s : State) : ℕ :=
  match s.registering with
  | none => 0
  | some (.subscribing ..) => callWork s.call
  | some (.locking ..) => 1

def publishWork : Publishing → ℕ
  | .jitter       => 7
  | .calling call => callWork call

def cycleWork : Broadcast → ℕ
  | .publishing _ rest stage => 8 * rest.length + publishWork stage
  | .remainder               => 1
  | _                        => 0

def eventLoopWork : EventLoop → ℕ
  | .sending _  => 2
  | .backingOff => 1
  | .polling    => 0

def commandWork : CommandTask → ℕ
  | .handing _ => 2
  | .receiving => 0

/-- The steps that the tasks may have to take: a command is worth more than the request it becomes,
    a call more than its command, a channel more than its call. -/
def work (s : State) : ℕ :=
  s.inbound.length + eventLoopWork s.eventLoop + s.requests.length + commandWork s.command +
    3 * s.commands.length + registerWork s + 7 * s.channels.length + cycleWork s.broadcast

/-- Neither the broker nor a handshake brings anything new, and the client takes every command. -/
def quiet : Event → Bool
  | .publishArrives _     => false
  | .channelQueued _      => false
  | .takeCommand (some _) => false
  | _                     => true

/-- A quiet step brings the tasks nearer to the end of their work, and not into a stuck state. -/
def Progress (app : App) (useJitter : Bool) (s : State) : Prop :=
  ∃ e s', quiet e = true ∧ step app useJitter s e = some s' ∧ ¬ Stuck s' ∧ work s' < work s

section Progress

variable {app : App} {useJitter : Bool} {s s' : State}

theorem callWork_reply (answer : Except String Unit) (call : Call) :
    callWork (call.reply answer) = callWork call := by
  cases call <;> rfl

theorem cycleWork_reply (answer : Except String Unit) (b : Broadcast) :
    cycleWork (b.reply answer) = cycleWork b := by
  cases b with
  | resting | waitingRead | remainder => rfl
  | publishing topic rest stage =>
      cases stage with
      | jitter => rfl
      | calling call => exact congrArg (8 * rest.length + ·) (callWork_reply answer call)

theorem work_reply (answer : Except String Unit) (o : Owner) :
    work (s.reply answer o) = work s := by
  cases o with
  | dropped => rfl
  | messageLoop =>
      have hreg : registerWork (s.reply answer .messageLoop) = registerWork s := by
        rw [registerWork, registerWork]
        cases hr : s.registering with
        | none => simp [State.reply, hr]
        | some r => cases r <;> simp [State.reply, hr, callWork_reply]
      rw [work, hreg]
      rfl
  | broadcast =>
      show _ + cycleWork (s.broadcast.reply answer) = work s
      rw [cycleWork_reply]
      rfl

theorem cycleWork_nextTopic (useJitter : Bool) (topics : List String) :
    cycleWork (.nextTopic useJitter topics) < 8 * topics.length + 2 := by
  cases topics with
  | nil => cases useJitter <;> decide
  | cons topic rest =>
      cases useJitter <;>
        simp only [Broadcast.nextTopic, cycleWork, publishWork, callWork, List.length_cons,
          Bool.false_eq_true, if_true, if_false] <;> omega

theorem not_stuck_of_selecting (hr : s.registering = none) : ¬ Stuck s :=
  fun h => h.registering hr

theorem not_stuck_of_polling (he : s.eventLoop = .polling) : ¬ Stuck s :=
  fun h => h.not_polling he

/-- A step that leaves the two queues of the client alone, and puts no turn off. -/
theorem not_stuck_wait (h : ¬ Stuck s) (he : s'.eventLoop = s.eventLoop)
    (hin : s'.inbound = s.inbound) (hreq : s'.requests = s.requests)
    (hturns : turns s' ≤ turns s) : ¬ Stuck s' :=
  fun hstuck => h (hstuck.mono he.symm hin.symm hreq.symm hturns)

/-- The command task can go on while the client has room. -/
theorem progress_command (hs : Lined s) (hfree : ¬ Stuck s) (hline : line s ≠ [])
    (hroom : s.requests.length < requestCapacity) : Progress app useJitter s := by
  cases hc : s.command with
  | handing c =>
      refine ⟨_, _, rfl, step_of_moves (.handOver hc hroom), ?_, ?_⟩
      · rw [stuck_handOver_iff hs hc hroom]
        exact hfree
      · rw [work_reply]
        simp only [work, hc, commandWork, List.length_append, List.length_singleton, registerWork]
        omega
  | receiving =>
      cases hq : s.commands with
      | nil => simp [line, hc, hq] at hline
      | cons c rest =>
          refine ⟨_, _, rfl, step_of_moves (.take hc hq), ?_, ?_⟩
          · refine not_stuck_wait hfree rfl rfl rfl (Nat.le_of_eq ?_)
            exact turns_congr rfl (line_take hc hq) rfl rfl rfl
          · simp only [work, hc, hq, commandWork, List.length_cons, registerWork]
            omega

/-- With nobody in line the command queue has room. -/
theorem commands_of_line (h : line s = []) : s.commands.length < cmdCapacity := by
  rw [line, List.append_eq_nil_iff, List.map_eq_nil_iff] at h
  rw [h.2]
  decide

/-- `register_channel` can go on with its subscribe call. -/
theorem progress_subscribing {c : TopicChannel} {now : Instant} (hs : Lined s) (hfree : ¬ Stuck s)
    (hr : s.registering = some (.subscribing c now)) (hplain : c.topicType ≠ .hybrid)
    (hroom : 0 < turns s → s.requests.length < requestCapacity) : Progress app useJitter s := by
  rw [turns_subscribing hr, ServiceLine.turns_pos_iff] at hroom
  cases hk : s.call with
  | answered answer =>
      obtain ⟨loop, hloop⟩ : ∃ loop,
        HamletRegistry.step app s.loop (.channel c now answer) = some loop := ⟨_, rfl⟩
      refine ⟨_, _, rfl, step_of_moves (.subscribed hk hr (fun ht _ => hplain ht) hloop),
        not_stuck_of_selecting rfl, ?_⟩
      simp only [work, registerWork, hr, hk, callWork]
      omega
  | awaiting =>
      refine progress_command hs hfree ?_ (hroom (.inr (by rw [hk]; rfl)))
      exact List.ne_nil_of_mem (hs.mem_messageLoop.mpr (by rw [hk]; rfl))
  | sending =>
      cases hline : line s with
      | cons o rest =>
          refine progress_command hs hfree (by rw [hline]; simp) (hroom (.inl ?_))
          rw [hk]
          decide
      | nil =>
          have hcalling : s.calling =
              some (.subscribe c.topic.topic (qosFromU8 c.topic.qos)) := by
            simp only [State.calling, hr]
          refine ⟨_, _, rfl, step_of_moves (.sendCommand hcalling hk (commands_of_line hline)),
            ?_, ?_⟩
          · refine not_stuck_wait hfree rfl rfl rfl (Nat.le_of_eq ?_)
            exact turns_sendCommand hs hr hr (line_send s _) hk rfl
          · simp only [work, registerWork, hr, hk, callWork, List.length_append,
              List.length_singleton]
            omega

/-- The broadcast loop can go on until it gives the guard back. -/
theorem progress_locking {c : TopicChannel} {now : Instant} (hs : Lined s) (hfree : ¬ Stuck s)
    (hr : s.registering = some (.locking c now))
    (hroom : 0 < turns s → s.requests.length < requestCapacity) : Progress app useJitter s := by
  rw [turns_locking hr, ServiceLine.turns_pos_iff] at hroom
  have hlock : s.broadcast.holdsTopics = false → Progress app useJitter s := by
    intro hidle
    obtain ⟨loop, hloop⟩ : ∃ loop,
      HamletRegistry.step app s.loop (.channel c now (.ok ())) = some loop := ⟨_, rfl⟩
    refine ⟨_, _, rfl, step_of_moves (.locked hidle hr hloop), not_stuck_of_selecting rfl, ?_⟩
    simp only [work, registerWork, hr]
    omega
  cases hb : s.broadcast with
  | resting | waitingRead => exact hlock (by rw [hb]; rfl)
  | remainder =>
      refine ⟨_, _, rfl, step_of_moves (.endCycle hb), ?_, ?_⟩
      · refine not_stuck_wait hfree rfl rfl rfl (Nat.le_of_eq ?_)
        exact turns_congr rfl rfl rfl (by rw [hb]; rfl) (by rw [hb]; rfl)
      · simp only [work, registerWork, hb, cycleWork]
        omega
  | publishing topic rest stage =>
      cases stage with
      | jitter =>
          refine ⟨_, _, rfl, step_of_moves (.jitterOver hb), ?_, ?_⟩
          · refine not_stuck_wait hfree rfl rfl rfl (Nat.le_of_eq ?_)
            exact turns_congr rfl rfl rfl (by rw [hb]; rfl) (by rw [hb]; rfl)
          · simp only [work, registerWork, hb, cycleWork, publishWork, callWork]
            omega
      | calling call =>
          cases call with
          | answered answer =>
              refine ⟨_, _, rfl, step_of_moves (.publishAnswered hb), ?_, ?_⟩
              · refine not_stuck_wait hfree rfl rfl rfl (Nat.le_of_eq ?_)
                refine turns_congr rfl rfl rfl ?_ ?_
                · rw [unpublished_nextTopic, hb]
                  rfl
                · rw [broadcastAwaits_nextTopic, hb]
                  rfl
              · have hlt := cycleWork_nextTopic useJitter rest
                simp only [work, registerWork, hb, cycleWork, publishWork, callWork] at hlt ⊢
                omega
          | awaiting =>
              refine progress_command hs hfree ?_ (hroom (.inr (by rw [hb]; rfl)))
              exact List.ne_nil_of_mem (hs.mem_broadcast.mpr (by rw [hb]; rfl))
          | sending =>
              cases hline : line s with
              | cons o os =>
                  refine progress_command hs hfree (by rw [hline]; simp) (hroom (.inl ?_))
                  rw [hb]
                  exact Nat.succ_ne_zero _
              | nil =>
                  refine ⟨_, _, rfl, step_of_moves (.sendPublish hb (commands_of_line hline)),
                    ?_, ?_⟩
                  · refine not_stuck_wait hfree rfl rfl rfl (Nat.le_of_eq ?_)
                    exact turns_sendPublish hs hr hr (line_send s _) hb rfl
                  · simp only [work, registerWork, hb, cycleWork, publishWork, callWork,
                      List.length_append, List.length_singleton]
                    omega

/-- The event loop can go on, unless it polls already. -/
theorem progress_eventLoop (he : s.eventLoop ≠ .polling) (hfree : ¬ s.InboundBlocked) :
    Progress app useJitter s := by
  cases hel : s.eventLoop with
  | polling => exact absurd hel he
  | backingOff =>
      refine ⟨_, _, rfl, step_of_moves (.backoffOver hel), not_stuck_of_polling rfl, ?_⟩
      simp only [work, registerWork, hel, eventLoopWork]
      omega
  | sending msg =>
      have hroom : s.inbound.length < msgCapacity := by
        by_contra hfull
        exact hfree ⟨⟨msg, hel⟩, hfull⟩
      refine ⟨_, _, rfl, step_of_moves (.deliver hel hroom), not_stuck_of_polling rfl, ?_⟩
      simp only [work, registerWork, hel, eventLoopWork, List.length_append, List.length_singleton]
      omega

/-- Inside `register_channel` the event loop empties the client, or the client has room enough. -/
theorem progress_registering {r : Registering} (hs : Lined s) (hfree : ¬ Stuck s)
    (hr : s.registering = some r) (hplain : (channelOf r).topicType ≠ .hybrid) :
    Progress app useJitter s := by
  have hinside : (0 < turns s → s.requests.length < requestCapacity) →
      Progress app useJitter s := by
    intro hroom
    cases r with
    | subscribing c now => exact progress_subscribing hs hfree hr hplain hroom
    | locking c now => exact progress_locking hs hfree hr hroom
  by_cases hblocked : s.InboundBlocked
  · refine hinside fun hpos => ?_
    have hle : turns s ≤ room s := Nat.not_lt.mp fun hlt => hfree ⟨hblocked, hlt⟩
    rw [room] at hle
    omega
  · by_cases he : s.eventLoop = .polling
    · cases hq : s.requests with
      | nil =>
          refine hinside fun _ => ?_
          rw [hq]
          decide
      | cons request rest =>
          refine ⟨_, _, rfl, step_of_moves (.transmit he hq), not_stuck_of_polling he, ?_⟩
          simp only [work, registerWork, hq, List.length_cons]
          omega
    · exact progress_eventLoop he hblocked

/-- A dropped sweep leaves its commands to be handed over. -/
theorem commandWork_dropSweep : commandWork s.dropSweep.command = commandWork s.command := by
  cases hc : s.command <;> simp [State.dropSweep, hc, commandWork]

theorem length_dropSweep : s.dropSweep.commands.length = s.commands.length :=
  List.length_map _

/-- Between two iterations the message loop takes a message or a channel, whichever is there. -/
theorem progress_selecting (hr : s.registering = none)
    (hwork : inFlight s ≠ [] ∨ unregistered s ≠ []) : Progress app useJitter s := by
  cases hin : s.inbound with
  | cons msg rest =>
      obtain ⟨loop, hloop⟩ : ∃ loop,
        HamletRegistry.step app s.loop (.message msg 0) = some loop := ⟨_, rfl⟩
      refine ⟨_, _, rfl, step_of_moves (.receiveMessage hr hin hloop),
        not_stuck_of_selecting hr, ?_⟩
      simp only [work, registerWork, commandWork_dropSweep, length_dropSweep, hin, List.length_cons]
      simp only [State.dropSweep, hr]
      omega
  | nil =>
      by_cases he : s.eventLoop = .polling
      · cases hq : s.channels with
        | nil => simp [inFlight, hin, he, heldBack, unregistered, hr, hq] at hwork
        | cons c rest =>
            refine ⟨.receiveChannel 0, _, rfl, step_of_moves (.receiveChannel hr hq),
              not_stuck_of_polling he, ?_⟩
            have henter : registerWork { s.dropSweep with
                registering := some (.enter c 0), channels := rest } ≤ 6 := by
              cases ht : c.topicType <;> simp [registerWork, Registering.enter, ht, State.dropSweep,
                callWork]
            simp only [work, commandWork_dropSweep, length_dropSweep, hq, List.length_cons]
            simp only [State.dropSweep] at henter ⊢
            omega
      · refine progress_eventLoop he ?_
        rintro ⟨-, hfull⟩
        rw [hin] at hfull
        exact hfull (by decide)

theorem progress (hs : Lined s) (hfree : ¬ Stuck s)
    (hplain : ∀ c ∈ unregistered s, c.topicType ≠ .hybrid)
    (hwork : inFlight s ≠ [] ∨ unregistered s ≠ []) : Progress app useJitter s := by
  cases hr : s.registering with
  | none => exact progress_selecting hr hwork
  | some r =>
      refine progress_registering hs hfree hr (hplain _ ?_)
      rw [unregistered, hr]
      exact List.mem_append_left _ (List.mem_singleton.mpr rfl)

/-- A quiet step queues no channel. -/
theorem unregistered_of_quiet {e : Event} (h : step app useJitter s e = some s')
    (he : quiet e = true) : ∀ c ∈ unregistered s', c ∈ unregistered s := by
  intro c hc
  have hnone : queuedChannels [e] = [] := by
    cases e with
    | channelQueued c => cases he
    | _ => rfl
  have hpass := (passes_of_step h).channels
  rw [hnone, List.append_nil] at hpass
  rw [hpass]
  exact List.mem_append_right _ hc

/-- The tasks can do all their work. -/
theorem drains (hs : Lined s) (hfree : ¬ Stuck s)
    (hplain : ∀ c ∈ unregistered s, c.topicType ≠ .hybrid) :
    ∃ es s', (∀ e ∈ es, quiet e = true) ∧ run (step app useJitter) s es = some s' ∧
      inFlight s' = [] ∧ unregistered s' = [] := by
  induction hn : work s using Nat.strong_induction_on generalizing s with
  | _ n ih =>
      by_cases hwork : inFlight s = [] ∧ unregistered s = []
      · exact ⟨[], s, by simp, rfl, hwork⟩
      · have hprogress : Progress app useJitter s :=
          progress hs hfree hplain (not_and_or.mp hwork)
        obtain ⟨e, t, he, hstep, hfree', hlt⟩ := hprogress
        obtain ⟨es, s', hes, hrun, hdone⟩ := ih (work t) (hn ▸ hlt) (lined_step hstep hs) hfree'
          (fun c hc => hplain c (unregistered_of_quiet hstep he c hc)) rfl
        refine ⟨e :: es, s', ?_, ?_, hdone⟩
        · intro x hx
          rcases List.mem_cons.mp hx with rfl | hx
          · exact he
          · exact hes x hx
        · rw [run_cons, hstep]
          exact hrun

end Progress

theorem refuses_of_quiet {e : Event} (h : quiet e = true) : refuses e = false := by
  cases e with
  | takeCommand refused =>
      cases refused with
      | none => rfl
      | some err => cases h
  | _ => rfl

/-- **Stuck is the exact border.** From a state that the tasks can come to, by channels such as the
    handshakes queue: without anything new, the tasks can handle every message and register every
    channel that is on its way if and only if the state is not stuck. A stuck state stays stuck, with
    the same messages waiting, whatever else arrives and in whatever order the tasks move, as long as
    the client refuses no command. Every gridlock is stuck. -/
theorem recoverable_iff (app : App) (useJitter : Bool) (es : List Event) (s : State)
    (h : tasksRun app useJitter es = some s)
    (hplain : ∀ c ∈ queuedChannels es, c.topicType ≠ .hybrid) :
    ((∃ es' s', (∀ e ∈ es', quiet e = true) ∧ run (step app useJitter) s es' = some s' ∧
        inFlight s' = [] ∧ unregistered s' = []) ↔ ¬ Stuck s) ∧
      (Stuck s → ∀ es' s', (∀ e ∈ es', refuses e = false) →
        run (step app useJitter) s es' = some s' → Stuck s' ∧ inFlight s' = inFlight s) ∧
      (s.Gridlock → Stuck s) := by
  have hlined := lined_run h
  refine ⟨⟨?_, ?_⟩, ?_, stuck_of_gridlock⟩
  · rintro ⟨es', s', hquiet, hrun, hdone, -⟩ hstuck
    have hstays := stuck_run hlined hstuck hrun fun e he => refuses_of_quiet (hquiet e he)
    obtain ⟨msg, hsend⟩ := hstays.stuck.inbound.1
    rw [inFlight, hsend] at hdone
    exact absurd hdone (by simp [heldBack])
  · intro hfree
    refine drains hlined hfree fun c hc => hplain c ?_
    rw [show queuedChannels es = _ from (conveyed_run h).channels]
    exact List.mem_append_right _ hc
  · intro hstuck es' s' hes hrun
    have hstays := stuck_run hlined hstuck hrun hes
    exact ⟨hstays.stuck, hstays.inFlight⟩

/-- Eleven beacons are registered and a cycle has read their topics; a twelfth one lets the message
    loop wait for the lock, and 65 messages arrive. -/
def jamming : List Event :=
  [.transmit, .transmit] ++
    elevenBeacons.flatMap (fun id =>
      handshake id ++ subscribing ++ [.receiveChannel 0, .lockTopics]) ++
    [.startCycle, .readTopics] ++ handshake "b12" ++ subscribing ++ [.receiveChannel 0] ++
    List.replicate 65 (.publishArrives { topic := "b1/rec", payload := .raw "" })

/-- The state after `jamming` has all its ten requests free, no command is in line and nobody waits
    for the client: and yet eleven publishes are one too many. The state after `firstContact` can
    still handle what is on its way. -/
theorem recoverable_iff_jamming :
    (∃ s, tasksRun node true jamming = some s ∧ Stuck s ∧ room s = 10 ∧ turns s = 11 ∧ line s = [] ∧
      ¬ ∃ es' s', (∀ e ∈ es', quiet e = true) ∧ run (step node true) s es' = some s' ∧
        inFlight s' = [] ∧ unregistered s' = []) ∧
    ∃ s, tasksRun node true firstContact = some s ∧ inFlight s ≠ [] ∧
      ∃ es' s', (∀ e ∈ es', quiet e = true) ∧ run (step node true) s es' = some s' ∧
        inFlight s' = [] ∧ unregistered s' = [] := by
  constructor
  · have hend : (tasksRun node true jamming).map (fun s =>
        (eventLoopWork s.eventLoop, s.inbound.length, room s, turns s, line s)) =
        some (2, 64, 10, 11, []) := by
      decide +kernel
    obtain ⟨s, hs, hfields⟩ := Option.map_eq_some_iff.mp hend
    simp only [Prod.mk.injEq] at hfields
    obtain ⟨hel, hin, hroom, hturns, hline⟩ := hfields
    have hblocked : s.InboundBlocked := by
      refine ⟨?_, by rw [hin]; decide⟩
      cases he : s.eventLoop with
      | sending msg => exact ⟨msg, rfl⟩
      | polling | backingOff => simp [he, eventLoopWork] at hel
    have hstuck : Stuck s := ⟨hblocked, by rw [hroom, hturns]; decide⟩
    have hborder := (recoverable_iff node true jamming s hs (by decide +kernel)).1
    exact ⟨s, hs, hstuck, hroom, hturns, hline, fun hdone => hborder.mp hdone hstuck⟩
  · refine ⟨_, rfl, by simp [inFlight], ?_⟩
    exact (recoverable_iff node true firstContact _ rfl (by decide)).1.mpr
      (not_stuck_of_polling rfl)

end HamletDrain
