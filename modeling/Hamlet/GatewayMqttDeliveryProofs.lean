import Hamlet.GatewayMqttTaskProofs
import Hamlet.Lib.ConservationProofs

/-!
# The inner loop of the MQTT gateway client: blocking and delivery

The inner loop is at once the producer and the only consumer of the client's request queue: a
`select!` branch that calls `publish` or `subscribe` keeps the same `select!` from polling. And the
queue belongs to the client, which is rebuilt for every connection, while the messages come from a
queue that outlives it.

* `never_blocked_of_room` — the task never waits for room that only it could make, as long as every
  message is taken with fewer than ten requests queued and every ConnAck finds room for the calls
  of `on_connected`; a run that misses this once is a few calls from a state it NEVER leaves;
* `delivery_iff_keeps` — every message taken is acknowledged or held exactly when no connection is
  dropped with a message in its client and no message with an invalid topic is published.
-/

namespace HamletGatewayMqtt

open HamletService EventRun History Conservation

variable {task : Task} {s s' : TaskState} {e : Event} {es : List Event} {backlog : List MqttMessage}

-- ── Waiting for room ─────────────────────────────────────────────────────────

/-- The task waits in `publish` or `subscribe` for room in a queue that is full. -/
def Blocked (task : Task) (s : TaskState) : Prop :=
  ∃ link req rest, s.phase = .calling link (req :: rest) ∧ req.valid task = true ∧
    requestCapacity ≤ link.requests.length

/-- The number of requests that will wait for room. -/
def demand (task : Task) (reqs : List Request) : ℕ := reqs.countP (Request.valid task)

/-- The step finds room for the client calls it leads to. -/
def Room (task : Task) (s : TaskState) (e : Event) : Prop :=
  ∀ link, s.phase = .running link →
    (∀ msg, e = .take msg → task.validTopic msg.topic = true →
      link.requests.length < requestCapacity) ∧
    (e = .connAck → link.requests.length + demand task (onConnected task link.creds)
      ≤ requestCapacity)

/-- There is room for every call a handler still has to make. -/
structure Roomy (task : Task) (s : TaskState) : Prop where
  running : ∀ link, s.phase = .running link → link.requests.length ≤ requestCapacity
  calling : ∀ link reqs, s.phase = .calling link reqs →
    link.requests.length + demand task reqs ≤ requestCapacity

theorem demand_cons_valid {req : Request} (h : req.valid task = true) (rest : List Request) :
    demand task (req :: rest) = demand task rest + 1 := List.countP_cons_of_pos h

theorem demand_cons_invalid {req : Request} (h : req.valid task = false) (rest : List Request) :
    demand task (req :: rest) = demand task rest := List.countP_cons_of_neg (by simp [h])

theorem Roomy.not_blocked (h : Roomy task s) : ¬ Blocked task s := by
  rintro ⟨link, req, rest, hp, hvalid, hfull⟩
  have hroom := h.calling link (req :: rest) hp
  rw [demand_cons_valid hvalid] at hroom
  omega

/-- A phase without a client has nothing to make room for. -/
theorem roomy_of_no_link (h : s.phase.link? = none) : Roomy task s where
  running link hp := by simp [hp, Phase.link?] at h
  calling link reqs hp := by simp [hp, Phase.link?] at h

theorem roomy_running {link : Link} (hp : s.phase = .running link)
    (h : link.requests.length ≤ requestCapacity) : Roomy task s where
  running link' hp' := by
    obtain rfl : link = link' := Phase.running.inj (hp.symm.trans hp')
    exact h
  calling link' reqs hp' := by simp [hp] at hp'

theorem roomy_serve (link : Link) (reqs : List Request) (hp : s.phase = .serve link reqs)
    (h : link.requests.length + demand task reqs ≤ requestCapacity) : Roomy task s := by
  cases reqs with
  | nil => exact roomy_running hp (by simpa [demand] using h)
  | cons req rest =>
      refine ⟨fun link' hp' => by simp [hp, Phase.serve] at hp', fun link' reqs' hp' => ?_⟩
      obtain ⟨rfl, rfl⟩ := Phase.calling.inj (hp.symm.trans hp')
      exact h

theorem Moves.roomy (h : Moves task s e s') (hr : Roomy task s) (hroom : Room task s e) :
    Roomy task s' := by
  cases h with
  | enqueue msg hp room => exact ⟨hr.running, hr.calling⟩
  | inbound link hp => exact hr
  | optionsBuilt env creds hp hopts => exact roomy_running rfl (by simp [requestCapacity])
  | take msg rest link hp hq =>
      refine roomy_serve link [.outbound msg] rfl ?_
      by_cases hvalid : (Request.outbound msg).valid task = true
      · have hlt := (hroom link hp).1 msg rfl hvalid
        rw [demand_cons_valid hvalid]
        exact hlt
      · rw [demand_cons_invalid (Bool.eq_false_iff.mpr hvalid)]
        exact hr.running link hp
  | accepted link req rest hp hvalid room =>
      have hle := hr.calling link (req :: rest) hp
      rw [demand_cons_valid hvalid] at hle
      refine roomy_serve _ rest rfl ?_
      rw [List.length_append, List.length_singleton]
      omega
  | rejected link req rest hp hvalid =>
      have hle := hr.calling link (req :: rest) hp
      rw [demand_cons_invalid hvalid] at hle
      exact roomy_serve _ rest rfl hle
  | drain link req rest hp hq hup =>
      have hle := hr.running link hp
      rw [hq, List.length_cons] at hle
      exact roomy_running rfl (by rw [show (link.send req rest).requests = rest from rfl]; omega)
  | connAck link hp =>
      exact roomy_serve { link with established := true } _ rfl ((hroom link hp).2 rfl)
  | pubAck link req hp hup hmem => exact roomy_running rfl (hr.running link hp)
  | login hp hc | reuse creds hp hc | shutdown hp | loginOk resp req hp | unauthorized req hp
  | transient err req hp | optionsFailed env creds err hp hopts | refused link hp
  | connectionError link hp | disconnected link hp | slept hp => exact roomy_of_no_link rfl
  | disconnect link hp => exact ⟨by simp, by simp⟩

theorem roomy_start : Roomy task (start backlog) := roomy_of_no_link rfl

/-- The queue of the client never holds more than its capacity. -/
def Bounded (s : TaskState) : Prop :=
  ∀ link, s.phase.link? = some link → link.requests.length ≤ requestCapacity

theorem bounded_of_link {link : Link} (hl : s.phase.link? = some link)
    (h : link.requests.length ≤ requestCapacity) : Bounded s := by
  intro link' hl'
  obtain rfl : link = link' := Option.some.inj (hl.symm.trans hl')
  exact h

theorem Moves.bounded (h : Moves task s e s') (hb : Bounded s) : Bounded s' := by
  cases h with
  | enqueue msg hp room => exact hb
  | inbound link hp => exact hb
  | optionsBuilt env creds hp hopts => exact bounded_of_link rfl (by simp [requestCapacity])
  | take msg rest link hp hq => exact bounded_of_link rfl (hb link (congrArg Phase.link? hp))
  | accepted link req rest hp hvalid room =>
      refine bounded_of_link (link?_serve _ rest) ?_
      rw [List.length_append]
      exact room
  | rejected link req rest hp hvalid =>
      exact bounded_of_link (link?_serve link rest) (hb link (congrArg Phase.link? hp))
  | drain link req rest hp hq hup =>
      have hle := hb link (congrArg Phase.link? hp)
      rw [hq, List.length_cons] at hle
      exact bounded_of_link rfl (Nat.le_of_succ_le hle)
  | connAck link hp =>
      have hl := link?_serve { link with established := true } (onConnected task link.creds)
      exact bounded_of_link hl (hb link (congrArg Phase.link? hp))
  | pubAck link req hp hup hmem => exact bounded_of_link rfl (hb link (congrArg Phase.link? hp))
  | disconnect link hp => exact bounded_of_link rfl (hb link (congrArg Phase.link? hp))
  | login hp hc | reuse creds hp hc | shutdown hp | loginOk resp req hp | unauthorized req hp
  | transient err req hp | optionsFailed env creds err hp hopts | refused link hp
  | connectionError link hp | disconnected link hp | slept hp =>
      intro link' hl'
      cases hl'

theorem bounded_run (h : run (step task) (start backlog) es = some s) : Bounded s := by
  refine run_induction (P := fun _ t => Bounded t) (fun _ hl => by cases hl) ?_ es s h
  intro _ _ t u _ hb hstep
  exact (moves_of_step hstep).bounded hb

/-- A handler that wants more than there is room for is stuck after a few of its calls. -/
theorem blocked_of_overfull (task : Task) :
    ∀ (reqs : List Request) (link : Link) (s : TaskState), s.phase = .serve link reqs →
      link.requests.length ≤ requestCapacity →
      requestCapacity < link.requests.length + demand task reqs →
      ∃ n u, run (step task) s (List.replicate n .call) = some u ∧ Blocked task u := by
  intro reqs
  induction reqs with
  | nil =>
      intro link s _ hlen hover
      rw [show demand task [] = 0 from rfl] at hover
      omega
  | cons req rest ih =>
      intro link s hp hlen hover
      have hcall : s.phase = .calling link (req :: rest) := hp
      -- once the call has returned, the rest of the handler still wants too much
      have hgoOn : ∀ link', step task s .call = some { s with phase := .serve link' rest } →
          link'.requests.length ≤ requestCapacity →
          requestCapacity < link'.requests.length + demand task rest →
          ∃ n u, run (step task) s (List.replicate n .call) = some u ∧ Blocked task u := by
        intro link' hstep hlen' hover'
        obtain ⟨n, u, hu, hblocked⟩ :=
          ih link' { s with phase := .serve link' rest } rfl hlen' hover'
        refine ⟨n + 1, u, ?_, hblocked⟩
        rw [List.replicate_succ, run_cons, hstep]
        exact hu
      by_cases hvalid : req.valid task = true
      · rw [demand_cons_valid hvalid] at hover
        by_cases hroom : link.requests.length < requestCapacity
        · refine hgoOn { link with requests := link.requests ++ [req] } ?_ ?_ ?_
          · simp [step, hcall, hvalid, hroom]
          · rw [List.length_append]
            exact hroom
          · simp only [List.length_append, List.length_singleton]
            omega
        · exact ⟨0, s, rfl, link, req, rest, hcall, hvalid, not_lt.mp hroom⟩
      · have hinvalid := Bool.eq_false_iff.mpr hvalid
        rw [demand_cons_invalid hinvalid] at hover
        exact hgoOn link (by simp [step, hcall, hinvalid]) hlen hover

/-- A step without room leads to a handler that wants too much. -/
theorem Moves.overfull (h : Moves task s e s') (hb : Bounded s) (hroom : ¬ Room task s e) :
    ∃ link reqs, s'.phase = .serve link reqs ∧ link.requests.length ≤ requestCapacity ∧
      requestCapacity < link.requests.length + demand task reqs := by
  simp only [Room, not_forall, not_and_or] at hroom
  obtain ⟨link, hp, ⟨msg, rfl, hvalid, hfull⟩ | ⟨rfl, hover⟩⟩ := hroom
  · cases h with
    | take _ rest link' hp' hq =>
        obtain rfl : link = link' := Phase.running.inj (hp.symm.trans hp')
        have hout : (Request.outbound msg).valid task = true := hvalid
        have hwant : demand task [.outbound msg] = 1 := demand_cons_valid hout []
        exact ⟨link, [.outbound msg], rfl, hb link (congrArg Phase.link? hp), by omega⟩
  · cases h with
    | connAck link' hp' =>
        obtain rfl : link = link' := Phase.running.inj (hp.symm.trans hp')
        exact ⟨{ link with established := true }, onConnected task link.creds, rfl,
          hb link (congrArg Phase.link? hp), not_le.mp hover⟩

/-- Nothing but other tasks' messages happens to a blocked task: it stays blocked for ever, whether
    it is told to shut down or not. -/
theorem Blocked.forever (hblocked : Blocked task s) (h : run (step task) s es = some s') :
    Blocked task s' ∧ ∀ e ∈ es, ∃ msg, e = .enqueue msg := by
  induction es generalizing s with
  | nil =>
      obtain rfl : s = s' := Option.some.inj h
      exact ⟨hblocked, by simp⟩
  | cons e es ih =>
      obtain ⟨t, ht, hrest⟩ := Option.bind_eq_some_iff.mp h
      obtain ⟨link, req, rest, hp, hvalid, hfull⟩ := hblocked
      cases moves_of_step ht with
      | enqueue msg _ room =>
          have hstill : Blocked task { s with outbound := s.outbound ++ [msg] } :=
            ⟨link, req, rest, hp, hvalid, hfull⟩
          obtain ⟨hb, hes⟩ := ih hstill hrest
          refine ⟨hb, ?_⟩
          rintro e (_ | ⟨_, he⟩)
          · exact ⟨msg, rfl⟩
          · exact hes e he
      | accepted link' req' rest' hp' _ room =>
          obtain ⟨rfl, -⟩ := Phase.calling.inj (hp.symm.trans hp')
          omega
      | rejected link' req' rest' hp' hinvalid =>
          obtain ⟨-, hcons⟩ := Phase.calling.inj (hp.symm.trans hp')
          obtain ⟨rfl, -⟩ := List.cons.inj hcons
          rw [hvalid] at hinvalid
          cases hinvalid
      -- the other steps are not steps of a task in a call
      | _ => simp_all

/-- **When the task never blocks itself.** In a run each of whose steps finds room — a message with
    a valid topic is taken with fewer than ten requests queued, a ConnAck comes with room for the
    calls of `on_connected` — no state has the task waiting for room in a full queue. A step that
    misses this is followed by such a state after a few of the task's own calls. -/
theorem never_blocked_of_room (task : Task) (backlog : List MqttMessage) (es : List Event)
    (s : TaskState) (h : run (step task) (start backlog) es = some s) :
    (EachStep (step task) (start backlog) es (Room task) →
      Throughout (step task) (start backlog) es fun t => ¬ Blocked task t) ∧
    (∀ p e q t, es = p ++ e :: q → run (step task) (start backlog) p = some t → ¬ Room task t e →
      ∃ n u, run (step task) (start backlog) (p ++ e :: List.replicate n .call) = some u ∧
        Blocked task u) := by
  constructor
  · intro hroom p q hes t ht
    have hroomy : Throughout (step task) (start backlog) es (Roomy task) :=
      throughout_of_eachStep (I := fun _ _ => True) hroom (fun _ _ _ _ _ => trivial) roomy_start
        fun _ _ t u _ _ hr hC hstep => (moves_of_step hstep).roomy hr hC
    exact (hroomy p q hes t ht).not_blocked
  · intro p e q t hes ht hroom
    rw [hes] at h
    obtain ⟨t', u, ht', hu, -⟩ := run_split h
    obtain rfl : t = t' := Option.some.inj (ht.symm.trans ht')
    obtain ⟨link, reqs, hp, hlen, hover⟩ :=
      (moves_of_step hu).overfull (bounded_run ht) hroom
    obtain ⟨n, v, hv, hblocked⟩ := blocked_of_overfull task reqs link u hp hlen hover
    refine ⟨n, v, ?_, hblocked⟩
    rw [run_append_eq_some]
    refine ⟨t, ht, ?_⟩
    rw [run_cons, hu]
    exact hv

/-- A message for the broker. -/
def reading : MqttMessage := ⟨"device-1/out", [104, 105]⟩

/-- One message is taken before the connection is up. -/
theorem never_blocked_one_message :
    Throughout (step pinnedTask) (start [reading])
      [.login, .loginOk deviceLogin, .options (fairWeather true), .take reading, .call]
      fun t => ¬ Blocked pinnedTask t := by
  refine (never_blocked_of_room pinnedTask [reading] _ _ rfl).1 ?_
  -- the queue is empty when the message is taken, and every other step needs no room
  refine eachStep_cons (by simp [Room, start]) fun t ht => ?_
  obtain rfl := Option.some.inj ht
  refine eachStep_cons (by simp [Room]) fun t ht => ?_
  obtain rfl := Option.some.inj ht
  refine eachStep_cons (by simp [Room]) fun t ht => ?_
  obtain rfl := Option.some.inj ht
  refine eachStep_cons (by simp [Room, requestCapacity]) fun t ht => ?_
  exact eachStep_cons (by simp [Room]) fun t _ => eachStep_nil t _

/-- Eleven messages, taken one after the other before the connection is up. -/
def elevenTaken : List Event :=
  [.login, .loginOk deviceLogin, .options (fairWeather true)] ++
    (List.replicate 10 [.take reading, .call]).flatten ++ [.take reading]

/-- The eleventh `publish` waits for room that only the waiting task could make. -/
theorem eleventh_publish_blocks :
    ¬ ∀ (task : Task) (backlog : List MqttMessage) (es : List Event) (s : TaskState),
      run (step task) (start backlog) es = some s → ¬ Blocked task s := by
  intro h
  exact h pinnedTask (List.replicate 11 reading) elevenTaken _ rfl
    ⟨_, _, _, rfl, rfl, by decide⟩

-- ── What becomes of the messages ─────────────────────────────────────────────

/-- The message another task wanted published. -/
def Request.outbound? : Request → Option MqttMessage
  | .outbound msg => some msg
  | _ => none

/-- The messages among the requests. -/
def messages (reqs : List Request) : List MqttMessage := reqs.filterMap Request.outbound?

/-- The messages a client holds, queued or unacknowledged. -/
def Link.messages (link : Link) : List MqttMessage :=
  HamletGatewayMqtt.messages (link.requests ++ link.unacked)

/-- The messages the task holds for transmission in this or a later session; a client that is being
    disconnected holds nothing for later. -/
def TaskState.held (s : TaskState) : List MqttMessage :=
  match s.phase with
  | .running link      => link.messages
  | .calling link reqs => link.messages ++ messages reqs
  | _ => []

/-- The message that an event takes from the outbound queue. -/
def Event.taken : Event → List MqttMessage
  | .take msg => [msg]
  | _ => []

/-- The message whose publish the broker acknowledges. -/
def Event.acked : Event → List MqttMessage
  | .pubAck (.outbound msg) => [msg]
  | _ => []

/-- The step drops no message: a failed connection had none in its client, and a `publish` call
    that returns an error was not for one. -/
def Keeps (task : Task) (s : TaskState) (e : Event) : Prop :=
  (e = .refused ∨ e = .connectionError → s.held = []) ∧
  (e = .call → ∀ link msg rest, s.phase = .calling link (.outbound msg :: rest) →
    task.validTopic msg.topic = true)

@[simp] theorem messages_append (reqs reqs' : List Request) :
    messages (reqs ++ reqs') = messages reqs ++ messages reqs' := List.filterMap_append

@[simp] theorem messages_nil : messages [] = [] := rfl

theorem messages_cons (req : Request) (reqs : List Request) :
    messages (req :: reqs) = messages [req] ++ messages reqs := messages_append [req] reqs

theorem messages_publish? (req : Request) : messages req.publish?.toList = messages [req] := by
  cases req <;> rfl

theorem messages_onConnected (task : Task) (creds : LoginResponse) :
    messages (onConnected task creds) = [] := by
  rw [onConnected, messages_append]
  cases task.toVec (.alive creds.deviceId) <;> rfl

theorem held_serve (link : Link) (reqs : List Request) (hp : s.phase = .serve link reqs) :
    s.held = link.messages ++ messages reqs := by
  rw [TaskState.held, hp]
  cases reqs with
  | nil => exact (List.append_nil _).symm
  | cons req rest => rfl

theorem held_running {link : Link} (hp : s.phase = .running link) : s.held = link.messages := by
  rw [TaskState.held, hp]

theorem held_calling {link : Link} {reqs : List Request} (hp : s.phase = .calling link reqs) :
    s.held = link.messages ++ messages reqs := by
  rw [TaskState.held, hp]

theorem keeps_of_ne (h₁ : e ≠ .refused) (h₂ : e ≠ .connectionError) (h₃ : e ≠ .call) :
    Keeps task s e := by
  simp [Keeps, h₁, h₂, h₃]

/-- A step that moves no message in or out and keeps the ones it has. -/
theorem loses_nothing (ht : e.taken = []) (ha : e.acked = []) (hh : s.held.Perm s'.held)
    (hk : Keeps task s e) :
    ∃ lost, Loses Event.taken Event.acked TaskState.held s s' e lost ∧
      (lost = [] ↔ Keeps task s e) := by
  refine ⟨[], ?_, by simp [hk]⟩
  rw [Loses, ht, ha, List.append_nil, List.append_nil]
  exact hh

/-- A step that drops the client drops the messages it holds. -/
theorem loses_held (ht : e.taken = []) (ha : e.acked = []) (hh : s'.held = [])
    (hk : s.held = [] ↔ Keeps task s e) :
    ∃ lost, Loses Event.taken Event.acked TaskState.held s s' e lost ∧
      (lost = [] ↔ Keeps task s e) := by
  refine ⟨s.held, ?_, hk⟩
  rw [Loses, ht, ha, hh, List.append_nil]
  rfl

/-- The request goes from the handler to the end of the queue. -/
theorem messages_accepted (link : Link) (req : Request) (rest : List Request) :
    (link.messages ++ messages (req :: rest)).Perm
      (Link.messages { link with requests := link.requests ++ [req] } ++ messages rest) := by
  rw [messages_cons, Link.messages, Link.messages, messages_append, messages_append,
    messages_append, List.append_assoc, List.append_assoc, List.append_assoc]
  refine List.Perm.append_left _ ?_
  rw [← List.append_assoc, ← List.append_assoc]
  exact List.perm_append_comm.append_right _

/-- The request goes from the queue to the unacknowledged ones. -/
theorem messages_send (link : Link) (req : Request) (rest : List Request)
    (hq : link.requests = req :: rest) : link.messages.Perm (link.send req rest).messages := by
  rw [Link.messages, Link.messages, Link.send, hq, messages_append, messages_append,
    messages_append, messages_publish?, messages_cons req rest, List.append_assoc]
  exact (List.perm_append_comm.trans (by rw [List.append_assoc]))

/-- The acknowledged publish leaves the client. -/
theorem messages_pubAck (link : Link) (req : Request) (hmem : req ∈ link.unacked) :
    link.messages.Perm
      (messages [req] ++ Link.messages { link with unacked := link.unacked.erase req }) := by
  have herase : (messages link.unacked).Perm (messages (req :: link.unacked.erase req)) :=
    (List.perm_cons_erase hmem).filterMap _
  rw [Link.messages, Link.messages, messages_append, messages_append, ← List.append_assoc]
  refine (herase.append_left _).trans ?_
  rw [messages_cons, ← List.append_assoc]
  exact List.perm_append_comm.append_right _

theorem acked_pubAck (req : Request) : (Event.pubAck req).acked = messages [req] := by
  cases req <;> rfl

/-- What each step loses. -/
theorem Moves.loses (h : Moves task s e s') (hshut : e ≠ .shutdown) :
    ∃ lost, Loses Event.taken Event.acked TaskState.held s s' e lost ∧
      (lost = [] ↔ Keeps task s e) := by
  cases h with
  | enqueue msg hp room => exact loses_nothing rfl rfl (.refl _) (keeps_of_ne nofun nofun nofun)
  | inbound link hp => exact loses_nothing rfl rfl (.refl _) (keeps_of_ne nofun nofun nofun)
  | shutdown hp => exact absurd rfl hshut
  | disconnect link hp => exact absurd rfl hshut
  | take msg rest link hp hq =>
      refine ⟨[], ?_, by simp [keeps_of_ne (e := .take msg) nofun nofun nofun]⟩
      rw [Loses, held_running hp, List.append_nil]
      exact .refl _
  | accepted link req rest hp hvalid room =>
      refine loses_nothing rfl rfl ?_ ⟨nofun, fun _ link' msg rest' hp' => ?_⟩
      · rw [held_calling hp, held_serve _ rest rfl]
        exact messages_accepted link req rest
      · obtain ⟨-, hcons⟩ := Phase.calling.inj (hp.symm.trans hp')
        obtain ⟨rfl, -⟩ := List.cons.inj hcons
        exact hvalid
  | rejected link req rest hp hvalid =>
      refine ⟨messages [req], ?_, ?_⟩
      · rw [Loses, held_calling hp, held_serve link rest rfl, messages_cons]
        show (link.messages ++ (messages [req] ++ messages rest) ++ []).Perm
          ([] ++ (link.messages ++ messages rest) ++ messages [req])
        rw [List.append_nil, List.nil_append, List.append_assoc]
        exact List.perm_append_comm.append_left _
      · -- an invalid topic loses the message it is for, and nothing of the task's own requests
        cases req with
        | subscribe topic | alive msg => simp [messages, Request.outbound?, Keeps, hp]
        | outbound msg =>
            have hbad : task.validTopic msg.topic = false := hvalid
            simp [messages, Request.outbound?, Keeps, hp, hbad]
  | drain link req rest hp hq hup =>
      refine loses_nothing rfl rfl ?_ (keeps_of_ne nofun nofun nofun)
      rw [held_running hp, held_running rfl]
      exact messages_send link req rest hq
  | connAck link hp =>
      refine loses_nothing rfl rfl ?_ (keeps_of_ne nofun nofun nofun)
      rw [held_running hp,
        held_serve { link with established := true } (onConnected task link.creds) rfl,
        messages_onConnected, List.append_nil]
      exact .refl _
  | pubAck link req hp hup hmem =>
      refine ⟨[], ?_, by simp [keeps_of_ne (e := .pubAck req) nofun nofun nofun]⟩
      rw [Loses, held_running hp, held_running rfl, acked_pubAck, List.append_nil]
      show (link.messages ++ []).Perm _
      rw [List.append_nil]
      exact messages_pubAck link req hmem
  | refused link hp => exact loses_held rfl rfl rfl (by simp [Keeps])
  | connectionError link hp => exact loses_held rfl rfl rfl (by simp [Keeps])
  | optionsBuilt env creds hp hopts =>
      refine loses_nothing rfl rfl ?_ (keeps_of_ne nofun nofun nofun)
      rw [TaskState.held, hp]
      exact .refl _
  | login hp hc | reuse creds hp hc | loginOk resp req hp | unauthorized req hp
  | transient err req hp | optionsFailed env creds err hp hopts | disconnected link hp
  | slept hp =>
      refine loses_nothing rfl rfl ?_ (keeps_of_ne nofun nofun nofun)
      rw [TaskState.held, hp]
      exact .refl _

/-- **When no message is lost.** In a run without shutdown, every message taken from the outbound
    queue has been acknowledged or is held by the client, in every state of the run, exactly when
    every connection fails with no message in its client and every `publish` call for a message has
    a valid topic. -/
theorem delivery_iff_keeps (task : Task) (backlog : List MqttMessage) (es : List Event)
    (s : TaskState) (h : run (step task) (start backlog) es = some s) (hshut : .shutdown ∉ es) :
    (∀ p q, es = p ++ q → ∀ t, run (step task) (start backlog) p = some t →
      (p.flatMap Event.taken).Perm (p.flatMap Event.acked ++ t.held)) ↔
    EachStep (step task) (start backlog) es (Keeps task) := by
  refine balanced_iff_eachStep rfl h ?_
  intro p e q t u hes ht hstep
  refine (moves_of_step hstep).loses ?_
  rintro rfl
  exact hshut (by simp [hes])

/-- A message that is taken and queued is still there. -/
theorem delivery_one_message :
    ∃ s, run (step pinnedTask) (start [reading])
        [.login, .loginOk deviceLogin, .options (fairWeather true), .take reading] = some s ∧
      s.held = [reading] ∧
      ∀ p q, [.login, .loginOk deviceLogin, .options (fairWeather true), .take reading] = p ++ q →
        ∀ t, run (step pinnedTask) (start [reading]) p = some t →
          (p.flatMap Event.taken).Perm (p.flatMap Event.acked ++ t.held) := by
  refine ⟨_, rfl, rfl, ?_⟩
  refine (delivery_iff_keeps pinnedTask [reading] _ _ rfl (by simp)).mpr ?_
  intro p e q hes t _
  have hmem : e ∈ p ++ e :: q := by simp
  rw [← hes] at hmem
  exact keeps_of_ne (by rintro rfl; simp at hmem) (by rintro rfl; simp at hmem)
    (by rintro rfl; simp at hmem)

/-- A message that waits for the connection is dropped with the client when the connection fails. -/
theorem failed_connection_loses_message :
    ¬ ∀ (task : Task) (backlog : List MqttMessage) (es : List Event) (s : TaskState),
      run (step task) (start backlog) es = some s → .shutdown ∉ es →
      (es.flatMap Event.taken).Perm (es.flatMap Event.acked ++ s.held) := by
  intro h
  have hperm := h pinnedTask [reading]
    [.login, .loginOk deviceLogin, .options (fairWeather true), .take reading, .call,
      .connectionError] _ rfl (by simp)
  exact absurd hperm.length_eq (by decide)

end HamletGatewayMqtt
