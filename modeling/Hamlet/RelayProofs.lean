import Hamlet.GatewayLinkProofs
import Hamlet.GatewaySocketProofs

/-!
# From a beacon to a gateway

A beacon advertises a gateway; the message loop dials it, queues the beacon's payload on the new
connection and stores the shutdown sender in the beacon's record. From then on the connection task
is on its own: it connects, registers the node, forwards the payload, and connects again whenever
the connection breaks, until the sender is dropped.

The loop (`HamletRegistry`) and the task (`HamletGatewaySocket`) are modelled apart. A node is the
loop with one task for each call of `connect_to_gateway`, and its runs interleave them; the two
meet in the queue, which `handle.send` fills while the task may already be connecting, and in the
sender, without which a task cannot be shut down.

Every task of a run is a run of the task alone (`NodeInv.task`), so that what is known of it carries
over. `relay_end_to_end` follows a payload from the MQTT message to the frames of the gateway: it is
written AT MOST ONCE over all connections, behind a Register frame, and the task is not shut down as
long as somebody holds its sender.
-/

namespace HamletRelay

open EventRun HamletCloudGateway HamletRegistry HamletGatewayLink
open HamletGatewaySocket (TaskState TaskConfig Socket Phase RegisterFirst taskOf enqueued)

-- ── The node ─────────────────────────────────────────────────────────────────

structure Node where
  loop    : LoopState
  /-- The connection tasks, in the order of the calls of `connect_to_gateway`. -/
  tasks   : List TaskState
  /-- The loop is inside `handle.send` on its newest connection. -/
  sending : Option GatewayMessage

/-- The node before the first iteration of its loop. -/
def Node.init (app : App) : Node where
  loop    := .init app
  tasks   := []
  sending := none

/-- A shutdown sender is in a record, or in the record that a sweep is deregistering. -/
def holdsSender (s : LoopState) (k : ℕ) : Bool :=
  decide (∃ id ∈ s.registry.records.keys, tx? s.registry id = some ⟨k⟩) ||
    s.sweep.pending.any fun r => decide (r.gatewayShutdownTx = some ⟨k⟩)

/-- The loop is about to queue a message for this task. -/
def Node.sends (n : Node) (k : ℕ) : Bool := n.sending.isSome && decide (k + 1 = n.tasks.length)

/-- Somebody holds the shutdown sender of a task; the loop itself does until it has stored it. -/
def Node.held (n : Node) (k : ℕ) : Bool := holdsSender n.loop k || n.sends k

inductive Event where
  | loop (e : HamletRegistry.Event)
  /-- The message is in the queue, `handle.send` returns. -/
  | send
  | task (k : ℕ) (e : HamletGatewaySocket.Event)

/-- What a task may do on its own: its queue has no sender but the loop, and the shutdown receiver
    does not fire while somebody holds the sender. -/
def Node.allows (n : Node) (k : ℕ) : HamletGatewaySocket.Event → Bool
  | .enqueue _ => false
  | .shutdown _ => !n.held k
  | _ => true

section Steps

variable (app : App) (toJson : GatewayMessage → Except String String)

/-- One step of a task. -/
def stepTask (n : Node) (k : ℕ) (e : HamletGatewaySocket.Event) : Option Node :=
  match n.loop.connections[k]?, n.tasks[k]? with
  | some c, some t =>
      (HamletGatewaySocket.step (taskOf toJson c) t e).map fun t =>
        { n with tasks := n.tasks.set k t }
  | _, _ => none

def step (n : Node) : Event → Option Node
  | .loop e =>
      if n.sending.isSome then none
      else
        (HamletRegistry.step app n.loop e).map fun loop =>
          let new := loop.connections.drop n.loop.connections.length
          { loop    := loop
            tasks   := n.tasks ++ new.map fun _ => HamletGatewaySocket.start []
            sending := (new.flatMap Connection.queued).head? }
  | .send =>
      match n.sending with
      | none => none
      | some msg =>
          (stepTask toJson n (n.tasks.length - 1) (.enqueue msg)).map fun n =>
            { n with sending := none }
  | .task k e => if n.allows k e then stepTask toJson n k e else none

end Steps

-- ── What a step can do ───────────────────────────────────────────────────────

variable {app : App} {toJson : GatewayMessage → Except String String} {n n' : Node} {e : Event}
  {es : List Event}

/-- The connection that a message makes the loop open, with what it queues on it. -/
def relayConnection (app : App) (msg : MqttMessage) (u : String) : Connection :=
  (connectToGateway app.serverUrl u).send (.beaconRegistration app.serverUrl msg.payload.value)

/-- An event of the loop opens no connection, or the one of a message. -/
theorem connections_step {s s' : LoopState} {e : HamletRegistry.Event}
    (h : HamletRegistry.step app s e = some s') :
    s'.connections = s.connections ∨
      ∃ msg now u, e = .message msg now ∧ advertisedGateway msg.payload.value = some u ∧
        s'.connections = s.connections ++ [relayConnection app msg u] := by
  cases hd : e.dropsSweep with
  | false => exact .inl (connections_of_sweep h hd)
  | true =>
      cases e with
      | channel c now subscribed =>
          rw [step_channel h]
          exact .inl rfl
      | message msg now =>
          rw [step_message h]
          cases hdial : dials s.registry msg with
          | none => exact .inl (onMessage_idle app s.connections now hdial).2
          | some u =>
              obtain ⟨ha, hu⟩ := dials_eq_some.mp hdial
              have hk : ¬ (refreshSender s.registry msg.topic now).isGatewayKnown u = true := by
                rw [BeaconRegistry.isGatewayKnown, (sameLinks_refreshSender _ msg.topic now).known]
                simpa using hu
              refine .inr ⟨msg, now, u, rfl, ha, ?_⟩
              show (onMessage app s.registry s.connections msg now).2 = _
              rw [onMessage]
              simp only [ha]
              rw [if_neg hk]
              rfl
      | tick now stale => exact Bool.noConfusion hd
      | unsubscribed answer => exact Bool.noConfusion hd
      | topicsLocked => exact Bool.noConfusion hd

/-- The step function read backwards. -/
inductive Moves (app : App) (toJson : GatewayMessage → Except String String) (n : Node) :
    Event → Node → Prop
  | quiet {e : HamletRegistry.Event} {loop : LoopState} (hidle : n.sending = none)
      (hloop : HamletRegistry.step app n.loop e = some loop)
      (hconns : loop.connections = n.loop.connections) :
      Moves app toJson n (.loop e) ⟨loop, n.tasks, none⟩
  | dial {msg : MqttMessage} {now : Instant} {u : String} {loop : LoopState}
      (hidle : n.sending = none)
      (hloop : HamletRegistry.step app n.loop (.message msg now) = some loop)
      (hurl : advertisedGateway msg.payload.value = some u)
      (hconns : loop.connections = n.loop.connections ++ [relayConnection app msg u]) :
      Moves app toJson n (.loop (.message msg now))
        ⟨loop, n.tasks ++ [HamletGatewaySocket.start []],
          some (.beaconRegistration app.serverUrl msg.payload.value)⟩
  | send {msg : GatewayMessage} {c : Connection} {t t' : TaskState} (hsend : n.sending = some msg)
      (hc : n.loop.connections[n.tasks.length - 1]? = some c)
      (ht : n.tasks[n.tasks.length - 1]? = some t)
      (hstep : HamletGatewaySocket.step (taskOf toJson c) t (.enqueue msg) = some t') :
      Moves app toJson n .send ⟨n.loop, n.tasks.set (n.tasks.length - 1) t', none⟩
  | task {k : ℕ} {e : HamletGatewaySocket.Event} {c : Connection} {t t' : TaskState}
      (hallow : n.allows k e = true) (hc : n.loop.connections[k]? = some c)
      (ht : n.tasks[k]? = some t)
      (hstep : HamletGatewaySocket.step (taskOf toJson c) t e = some t') :
      Moves app toJson n (.task k e) ⟨n.loop, n.tasks.set k t', n.sending⟩

theorem stepTask_inv {k : ℕ} {e : HamletGatewaySocket.Event} (h : stepTask toJson n k e = some n') :
    ∃ c t t', n.loop.connections[k]? = some c ∧ n.tasks[k]? = some t ∧
      HamletGatewaySocket.step (taskOf toJson c) t e = some t' ∧
      n' = { n with tasks := n.tasks.set k t' } := by
  rw [stepTask] at h
  split at h
  · next c t hc ht =>
      obtain ⟨t', ht', rfl⟩ := Option.map_eq_some_iff.mp h
      exact ⟨c, t, t', hc, ht, ht', rfl⟩
  · cases h

theorem moves_of_step (h : step app toJson n e = some n') : Moves app toJson n e n' := by
  cases e with
  | loop e =>
      simp only [step] at h
      split at h
      · cases h
      · next hidle =>
          have hnone : n.sending = none := by
            rw [← Option.not_isSome_iff_eq_none]
            exact hidle
          obtain ⟨loop, hloop, rfl⟩ := Option.map_eq_some_iff.mp h
          rcases connections_step hloop with hconns | ⟨msg, now, u, rfl, hurl, hconns⟩
          · rw [hconns, List.drop_length]
            rw [List.map_nil, List.append_nil]
            exact .quiet hnone hloop hconns
          · rw [hconns, List.drop_left]
            exact .dial hnone hloop hurl hconns
  | send =>
      simp only [step] at h
      split at h
      · cases h
      · next msg hsend =>
          obtain ⟨m, hm, rfl⟩ := Option.map_eq_some_iff.mp h
          obtain ⟨c, t, t', hc, ht, hstep, rfl⟩ := stepTask_inv hm
          exact .send hsend hc ht hstep
  | task k e =>
      simp only [step] at h
      split at h
      · next hallow =>
          obtain ⟨c, t, t', hc, ht, hstep, rfl⟩ := stepTask_inv h
          exact .task hallow hc ht hstep
      · cases h

-- ── Senders that nobody holds ────────────────────────────────────────────────

/-- A connection whose sender is in no record. -/
structure Free (k : ℕ) (reg : BeaconRegistry) (conns : List Connection) : Prop where
  old  : k < conns.length
  free : ∀ id, tx? reg id ≠ some ⟨k⟩

/-- The same while a record is being deregistered. -/
structure FreePending (k : ℕ) (reg : BeaconRegistry) (conns : List Connection) (r : BeaconRecord) :
    Prop extends Free k reg conns where
  pending : r.gatewayShutdownTx ≠ some ⟨k⟩

abbrev FreeHolds (k : ℕ) : LoopState → Prop :=
  Holds (Free k) fun reg conns _ r => FreePending k reg conns r

theorem Free.take {k : ℕ} {reg : BeaconRegistry} {conns : List Connection} {id : String}
    {r : BeaconRecord} (h : Free k reg conns) (hr : reg.record? id = some r) :
    FreePending k (reg.removeRecord id) conns r := by
  refine ⟨⟨h.old, ?_⟩, ?_⟩
  · intro id'
    rw [tx?, field?_removeRecord]
    split
    · exact (Option.some_ne_none _).symm
    · exact h.free id'
  · intro htx
    exact h.free id (field?_eq_some.mpr ⟨r, hr, htx⟩)

theorem Free.message {k : ℕ} {reg : BeaconRegistry} {conns : List Connection}
    (h : Free k reg conns) (app : App) (msg : MqttMessage) (now : Instant) :
    Free k (onMessage app reg conns msg now).1 (onMessage app reg conns msg now).2 := by
  cases hd : dials reg msg with
  | none =>
      obtain ⟨hsame, hconns⟩ := onMessage_idle app conns now hd
      rw [hconns]
      exact ⟨h.old, fun id => by rw [hsame.tx]; exact h.free id⟩
  | some u =>
      obtain ⟨-, -, htx⟩ := onMessage_dial app conns now hd
      obtain ⟨-, c, -, hconns⟩ := onMessage_dial_eq app conns now hd
      have hold := h.old
      rw [hconns]
      refine ⟨by rw [List.length_append]; omega, ?_⟩
      intro id heq
      rw [htx] at heq
      split at heq
      · -- the new sender is that of the new connection
        have hnew : conns.length = k := congrArg ShutdownTx.connection (Option.some.inj heq)
        omega
      · exact h.free id heq

/-- A sender that is gone stays gone. -/
theorem freeHolds_step {k : ℕ} {s s' : LoopState} {e : HamletRegistry.Event} (h : FreeHolds k s)
    (hstep : HamletRegistry.step app s e = some s') : FreeHolds k s' := by
  refine h.step hstep (fun _ _ _ _ h hr => h.take hr) ?_ (fun _ _ _ _ h => h.toFree) ?_ ?_
    (fun _ => ⟨fun _ _ h => h, fun _ _ _ _ h => h⟩)
  · intro reg conns id r h
    exact ⟨h.old, fun id' => by rw [tx?, field?_release]; exact h.free id'⟩
  · rintro c now subscribed - h
    have hsame := sameLinks_registerChannel s.registry c now subscribed
    exact ⟨h.old, fun id => by rw [hsame.tx]; exact h.free id⟩
  · rintro msg now - h
    exact h.message app msg now

theorem holdsSender_iff {s : LoopState} {k : ℕ} :
    holdsSender s k = true ↔ (∃ id, tx? s.registry id = some ⟨k⟩) ∨
      ∃ r, s.sweep.pending = some r ∧ r.gatewayShutdownTx = some ⟨k⟩ := by
  rw [holdsSender, Bool.or_eq_true, decide_eq_true_iff, Option.any_eq_true_iff_get]
  refine or_congr ⟨fun ⟨id, _, h⟩ => ⟨id, h⟩, ?_⟩ ?_
  · rintro ⟨id, h⟩
    obtain ⟨r, hr, -⟩ := field?_eq_some.mp h
    refine ⟨id, ?_, h⟩
    exact Finmap.mem_keys.mpr (Finmap.mem_of_lookup_eq_some hr)
  · constructor
    · rintro ⟨hsome, h⟩
      exact ⟨_, (Option.some_get hsome).symm, of_decide_eq_true h⟩
    · rintro ⟨r, hr, h⟩
      refine ⟨by rw [hr]; rfl, ?_⟩
      simp only [hr, Option.get_some]
      exact decide_eq_true h

/-- Not to hold a sender, as an invariant of the loop. -/
theorem freeHolds_of_not_held {own : Option String} {s : LoopState} {k : ℕ}
    (hinv : GatewayHolds own s) (hk : k < s.connections.length) (h : holdsSender s k = false) :
    FreeHolds k s := by
  have hnot := mt holdsSender_iff.mpr (Bool.not_eq_true _ ▸ h)
  obtain ⟨hrec, hpend⟩ := not_or.mp hnot
  have hfree : Free k s.registry s.connections := ⟨hk, fun id htx => hrec ⟨id, htx⟩⟩
  obtain ⟨reg, fut, conns⟩ := s
  cases fut with
  | waitingTick => exact hfree
  | unsubscribing id r rest => exact ⟨⟨hfree, fun htx => hpend ⟨r, rfl, htx⟩⟩, hinv.2⟩
  | lockingTopics id r rest => exact ⟨⟨hfree, fun htx => hpend ⟨r, rfl, htx⟩⟩, hinv.2⟩

theorem not_held_of_freeHolds {s : LoopState} {k : ℕ} (h : FreeHolds k s) :
    holdsSender s k = false := by
  rw [← Bool.not_eq_true, holdsSender_iff]
  rintro (⟨id, htx⟩ | ⟨r, hr, htx⟩)
  · exact (h.drop fun _ _ _ hq => hq.toFree).free id htx
  · obtain ⟨id, hq⟩ := h.pending hr
    exact hq.pending htx

-- ── What every run keeps ─────────────────────────────────────────────────────

/-- What has been queued for a task. -/
def Node.queuedFor (n : Node) (k : ℕ) (c : Connection) : List GatewayMessage :=
  if n.sends k then [] else c.queued

structure NodeInv (app : App) (toJson : GatewayMessage → Except String String) (es : List Event)
    (n : Node) : Prop where
  lengths : n.tasks.length = n.loop.connections.length
  gateway : GatewayHolds app.ownGatewayUrl n.loop
  /-- Every connection was opened for a message that advertised its URL. -/
  origin  : ∀ (k : ℕ) (c : Connection), n.loop.connections[k]? = some c →
    ∃ msg now u, .loop (.message msg now) ∈ es ∧ advertisedGateway msg.payload.value = some u ∧
      c = relayConnection app msg u
  sending : ∀ msg c, n.sending = some msg → n.loop.connections[n.tasks.length - 1]? = some c →
    c.queued = [msg]
  /-- Every task is a run of the task alone. -/
  task    : ∀ (k : ℕ) (c : Connection) (t : TaskState),
    n.loop.connections[k]? = some c → n.tasks[k]? = some t →
    ∃ p, run (HamletGatewaySocket.step (taskOf toJson c)) (HamletGatewaySocket.start []) p =
        some t ∧
      enqueued p = n.queuedFor k c ∧ ∀ e ∈ p, e.msg? = none → .task k e ∈ es
  /-- A task that has stopped has lost its sender. -/
  stopped : ∀ (k : ℕ) (t : TaskState), n.tasks[k]? = some t → t.phase = .stopped →
    FreeHolds k n.loop ∧ n.sends k = false

/-- Only a shutdown stops a task. -/
theorem shutdown_of_stopped {cfg : TaskConfig} {t t' : TaskState} {e : HamletGatewaySocket.Event}
    (h : HamletGatewaySocket.step cfg t e = some t') (hp : t'.phase = .stopped) :
    ∃ b, e = .shutdown b := by
  cases HamletGatewaySocket.moves_of_step h with
  | enqueue msg hne => exact absurd hp hne
  | shutdown b => exact ⟨b, rfl⟩
  | shutdownClose => exact ⟨true, rfl⟩
  | unserialisable msg rest err hrun => rw [hrun] at hp; cases hp
  | inbound hrun => rw [hrun] at hp; cases hp
  | ping data hrun => rw [hrun] at hp; cases hp
  | pong data hrun =>
      have hsame : t.phase = .stopped := hp
      rw [hrun] at hsame
      cases hsame
  | _ => cases hp

theorem nodeInv_init : NodeInv app toJson [] (Node.init app) where
  lengths := rfl
  gateway := gatewayHolds_init app
  origin := fun k c hc => by cases hc
  sending := fun msg c h => by cases h
  task := fun k c t hc => by cases hc
  stopped := fun k t ht => by cases ht

/-- While the loop is not sending, it sends to nobody. -/
theorem sends_of_idle (h : n.sending = none) (k : ℕ) : n.sends k = false := by
  rw [Node.sends, h]
  rfl

/-- It sends to its newest task only. -/
theorem sends_of_ne {k : ℕ} (h : k + 1 ≠ n.tasks.length) : n.sends k = false := by
  rw [Node.sends, decide_eq_false h, Bool.and_false]

/-- A step of the loop that opens no connection. -/
theorem NodeInv.quiet (h : NodeInv app toJson es n) {e : HamletRegistry.Event} {loop : LoopState}
    (hidle : n.sending = none) (hloop : HamletRegistry.step app n.loop e = some loop)
    (hconns : loop.connections = n.loop.connections) :
    NodeInv app toJson (es ++ [.loop e]) ⟨loop, n.tasks, none⟩ where
  lengths := h.lengths.trans (congrArg List.length hconns.symm)
  gateway := gatewayHolds_step h.gateway hloop
  origin := by
    intro k c hc
    obtain ⟨msg, now, u, hmem, hu⟩ := h.origin k c (hconns ▸ hc)
    exact ⟨msg, now, u, List.mem_append_left _ hmem, hu⟩
  sending := fun msg c hs => by cases hs
  task := by
    intro k c t hc ht
    obtain ⟨p, hrun, hq, hmem⟩ := h.task k c t (hconns ▸ hc) ht
    refine ⟨p, hrun, ?_, fun e he hmsg => List.mem_append_left _ (hmem e he hmsg)⟩
    rw [hq, Node.queuedFor, Node.queuedFor, sends_of_idle hidle, sends_of_idle rfl]
  stopped := by
    intro k t ht hp
    exact ⟨freeHolds_step (h.stopped k t ht hp).1 hloop, sends_of_idle rfl k⟩

/-- A message for which the loop dials a gateway. -/
theorem NodeInv.dial (h : NodeInv app toJson es n) {msg : MqttMessage} {now : Instant} {u : String}
    {loop : LoopState} (hidle : n.sending = none)
    (hloop : HamletRegistry.step app n.loop (.message msg now) = some loop)
    (hurl : advertisedGateway msg.payload.value = some u)
    (hconns : loop.connections = n.loop.connections ++ [relayConnection app msg u]) :
    NodeInv app toJson (es ++ [.loop (.message msg now)])
      ⟨loop, n.tasks ++ [HamletGatewaySocket.start []],
        some (.beaconRegistration app.serverUrl msg.payload.value)⟩ := by
  have hlen := h.lengths
  -- a connection is an old one or the new one
  have hsplit : ∀ (k : ℕ) (c : Connection), loop.connections[k]? = some c →
      n.loop.connections[k]? = some c ∧ k < n.tasks.length ∨ k = n.tasks.length ∧ c = relayConnection app msg u := by
    intro k c hc
    rw [hconns] at hc
    rcases Nat.lt_or_ge k n.loop.connections.length with hlt | hge
    · rw [List.getElem?_append_left hlt] at hc
      exact .inl ⟨hc, by omega⟩
    · have hk : k < (n.loop.connections ++ [relayConnection app msg u]).length :=
        (List.getElem?_eq_some_iff.mp hc).1
      rw [List.length_append, List.length_singleton] at hk
      obtain rfl : k = n.loop.connections.length := by omega
      rw [List.getElem?_concat_length] at hc
      exact .inr ⟨hlen.symm, (Option.some.inj hc).symm⟩
  refine ⟨?_, gatewayHolds_step h.gateway hloop, ?_, ?_, ?_, ?_⟩
  · show (n.tasks ++ _).length = loop.connections.length
    rw [hconns, List.length_append, List.length_append, hlen]
    rfl
  · intro k c hc
    rcases hsplit k c hc with ⟨hold, -⟩ | ⟨-, rfl⟩
    · obtain ⟨msg', now', u', hmem, hu'⟩ := h.origin k c hold
      exact ⟨msg', now', u', List.mem_append_left _ hmem, hu'⟩
    · exact ⟨msg, now, u, List.mem_append_right _ List.mem_cons_self, hurl, rfl⟩
  · intro m c hm hc
    obtain rfl := Option.some.inj hm
    have hlast : (n.tasks ++ [HamletGatewaySocket.start []]).length - 1 = n.tasks.length := by
      rw [List.length_append, List.length_singleton, Nat.add_sub_cancel]
    rcases hsplit _ c hc with ⟨-, hlt⟩ | ⟨-, rfl⟩
    · exact absurd (hlast ▸ hlt) (Nat.lt_irrefl _)
    · rfl
  · intro k c t hc ht
    rcases hsplit k c hc with ⟨hold, hlt⟩ | ⟨rfl, rfl⟩
    · rw [List.getElem?_append_left hlt] at ht
      obtain ⟨p, hrun, hq, hmem⟩ := h.task k c t hold ht
      refine ⟨p, hrun, ?_, fun e he hmsg => List.mem_append_left _ (hmem e he hmsg)⟩
      have hnot : Node.sends ⟨loop, n.tasks ++ [HamletGatewaySocket.start []],
          some (.beaconRegistration app.serverUrl msg.payload.value)⟩ k = false := by
        refine sends_of_ne ?_
        rw [List.length_append, List.length_singleton]
        omega
      rw [hq, Node.queuedFor, Node.queuedFor, sends_of_idle hidle, hnot]
    · rw [List.getElem?_concat_length] at ht
      obtain rfl := Option.some.inj ht
      refine ⟨[], rfl, ?_, fun e he => absurd he List.not_mem_nil⟩
      have hyes : Node.sends ⟨loop, n.tasks ++ [HamletGatewaySocket.start []],
          some (.beaconRegistration app.serverUrl msg.payload.value)⟩ n.tasks.length = true := by
        simp [Node.sends]
      rw [Node.queuedFor, hyes]
      rfl
  · intro k t ht hp
    rcases Nat.lt_or_ge k n.tasks.length with hlt | hge
    · rw [List.getElem?_append_left hlt] at ht
      refine ⟨freeHolds_step (h.stopped k t ht hp).1 hloop, ?_⟩
      refine sends_of_ne ?_
      rw [List.length_append, List.length_singleton]
      omega
    · have hk := (List.getElem?_eq_some_iff.mp ht).1
      rw [List.length_append, List.length_singleton] at hk
      obtain rfl : k = n.tasks.length := by omega
      rw [List.getElem?_concat_length] at ht
      obtain rfl := Option.some.inj ht
      cases hp

/-- A task after a step of one of them. -/
theorem getElem?_set_eq_some {tasks : List TaskState} {k j : ℕ} {t t' x : TaskState}
    (ht : tasks[k]? = some t) (hx : (tasks.set k t')[j]? = some x) :
    j = k ∧ x = t' ∨ j ≠ k ∧ tasks[j]? = some x := by
  by_cases hj : j = k
  · subst hj
    rw [List.getElem?_set_self (List.getElem?_eq_some_iff.mp ht).1] at hx
    exact .inl ⟨rfl, (Option.some.inj hx).symm⟩
  · rw [List.getElem?_set_ne (Ne.symm hj)] at hx
    exact .inr ⟨hj, hx⟩

/-- The loop gets its message into the queue. -/
theorem NodeInv.send (h : NodeInv app toJson es n) {msg : GatewayMessage} {c : Connection}
    {t t' : TaskState} (hsend : n.sending = some msg)
    (hc : n.loop.connections[n.tasks.length - 1]? = some c)
    (ht : n.tasks[n.tasks.length - 1]? = some t)
    (hstep : HamletGatewaySocket.step (taskOf toJson c) t (.enqueue msg) = some t') :
    NodeInv app toJson (es ++ [.send]) ⟨n.loop, n.tasks.set (n.tasks.length - 1) t', none⟩ := by
  have hlast : n.tasks.length - 1 < n.tasks.length := (List.getElem?_eq_some_iff.mp ht).1
  refine ⟨(List.length_set ..).trans h.lengths, h.gateway, ?_, (fun m c hm => by cases hm), ?_, ?_⟩
  · intro k d hd
    obtain ⟨msg', now, u, hmem, hu⟩ := h.origin k d hd
    exact ⟨msg', now, u, List.mem_append_left _ hmem, hu⟩
  · intro k d x hd hx
    rcases getElem?_set_eq_some ht hx with ⟨rfl, rfl⟩ | ⟨hne, hold⟩
    · obtain rfl : c = d := Option.some.inj (hc.symm.trans hd)
      obtain ⟨p, hrun, hq, hmem⟩ := h.task _ c t hc ht
      refine ⟨p ++ [.enqueue msg], run_concat_eq_some.mpr ⟨t, hrun, hstep⟩, ?_, ?_⟩
      · have hyes : n.sends (n.tasks.length - 1) = true := by
          rw [Node.sends, hsend, decide_eq_true (by omega)]
          rfl
        rw [HamletGatewaySocket.enqueued_concat, hq, Node.queuedFor, if_pos hyes, Node.queuedFor,
          sends_of_idle rfl, h.sending msg c hsend hc]
        rfl
      · intro e he hmsg
        rcases List.mem_append.mp he with hin | hin
        · exact List.mem_append_left _ (hmem e hin hmsg)
        · rw [List.mem_singleton.mp hin] at hmsg
          cases hmsg
    · obtain ⟨p, hrun, hq, hmem⟩ := h.task k d x hd hold
      refine ⟨p, hrun, ?_, fun e he hmsg => List.mem_append_left _ (hmem e he hmsg)⟩
      have hother : n.sends k = false := sends_of_ne (by omega)
      rw [hq, Node.queuedFor, Node.queuedFor, hother, sends_of_idle rfl]
  · intro k x hx hp
    rcases getElem?_set_eq_some ht hx with ⟨rfl, rfl⟩ | ⟨hne, hold⟩
    · obtain ⟨b, hb⟩ := shutdown_of_stopped hstep hp
      cases hb
    · exact ⟨(h.stopped k x hold hp).1, sends_of_idle rfl k⟩

/-- A task makes a step. -/
theorem NodeInv.taskStep (h : NodeInv app toJson es n) {k : ℕ} {e : HamletGatewaySocket.Event}
    {c : Connection} {t t' : TaskState} (hallow : n.allows k e = true)
    (hc : n.loop.connections[k]? = some c) (ht : n.tasks[k]? = some t)
    (hstep : HamletGatewaySocket.step (taskOf toJson c) t e = some t') :
    NodeInv app toJson (es ++ [.task k e]) ⟨n.loop, n.tasks.set k t', n.sending⟩ := by
  have hsends : ∀ j, Node.sends ⟨n.loop, n.tasks.set k t', n.sending⟩ j = n.sends j := by
    intro j
    rw [Node.sends, Node.sends, List.length_set]
  have hmsg : e.msg? = none := by
    cases e with
    | enqueue msg => cases hallow
    | _ => rfl
  refine ⟨(List.length_set ..).trans h.lengths, h.gateway, ?_, ?_, ?_, ?_⟩
  · intro j d hd
    obtain ⟨msg, now, u, hmem, hu⟩ := h.origin j d hd
    exact ⟨msg, now, u, List.mem_append_left _ hmem, hu⟩
  · intro m d hm hd
    rw [List.length_set] at hd
    exact h.sending m d hm hd
  · intro j d x hd hx
    rw [Node.queuedFor, hsends]
    rcases getElem?_set_eq_some ht hx with ⟨rfl, rfl⟩ | ⟨hne, hold⟩
    · obtain rfl : c = d := Option.some.inj (hc.symm.trans hd)
      obtain ⟨p, hrun, hq, hmem⟩ := h.task j c t hc ht
      refine ⟨p ++ [e], run_concat_eq_some.mpr ⟨t, hrun, hstep⟩, ?_, ?_⟩
      · rw [HamletGatewaySocket.enqueued_concat, hq, hmsg]
        exact List.append_nil _
      · intro e' he' hmsg'
        rcases List.mem_append.mp he' with hin | hin
        · exact List.mem_append_left _ (hmem e' hin hmsg')
        · rw [List.mem_singleton.mp hin]
          exact List.mem_append_right _ List.mem_cons_self
    · obtain ⟨p, hrun, hq, hmem⟩ := h.task j d x hd hold
      exact ⟨p, hrun, hq, fun e' he' hmsg' => List.mem_append_left _ (hmem e' he' hmsg')⟩
  · intro j x hx hp
    rw [hsends]
    rcases getElem?_set_eq_some ht hx with ⟨rfl, rfl⟩ | ⟨hne, hold⟩
    · -- it stops only when nobody holds its sender
      obtain ⟨b, rfl⟩ := shutdown_of_stopped hstep hp
      have hnot : n.held j = false := by simpa [Node.allows] using hallow
      rw [Node.held, Bool.or_eq_false_iff] at hnot
      exact ⟨freeHolds_of_not_held h.gateway (List.getElem?_eq_some_iff.mp hc).1 hnot.1, hnot.2⟩
    · exact h.stopped j x hold hp

theorem nodeInv_run (h : run (step app toJson) (Node.init app) es = some n) :
    NodeInv app toJson es n := by
  refine run_induction (P := NodeInv app toJson) nodeInv_init ?_ es n h
  intro es e n n' _ hinv hstep
  cases moves_of_step hstep with
  | quiet hidle hloop hconns => exact hinv.quiet hidle hloop hconns
  | dial hidle hloop hurl hconns => exact hinv.dial hidle hloop hurl hconns
  | send hsend hc ht htask => exact hinv.send hsend hc ht htask
  | task hallow hc ht htask => exact hinv.taskStep hallow hc ht htask

-- ── The way of a payload ─────────────────────────────────────────────────────

/-- All connections of a task go to its endpoint. -/
theorem socket_urls {cfg : TaskConfig} {backlog : List GatewayMessage}
    {p : List HamletGatewaySocket.Event} {t : TaskState}
    (h : run (HamletGatewaySocket.step cfg) (HamletGatewaySocket.start backlog) p = some t) :
    ∀ k ∈ t.sockets, k.url = cfg.wsUrl := by
  have hwrite : ∀ (f : HamletGatewaySocket.Frame) (ks : List Socket),
      (∀ k ∈ ks, k.url = cfg.wsUrl) → ∀ k ∈ ks.modifyLast (Socket.write f), k.url = cfg.wsUrl := by
    intro f ks hks k hk
    rcases List.eq_nil_or_concat' ks with rfl | ⟨front, last, rfl⟩
    · exact absurd hk List.not_mem_nil
    · rw [List.modifyLast_concat] at hk
      rcases List.mem_append.mp hk with hk | hk
      · exact hks k (List.mem_append_left _ hk)
      · rw [List.mem_singleton.mp hk]
        exact hks last (List.mem_append_right _ List.mem_cons_self)
  refine run_induction (P := fun _ t => ∀ k ∈ t.sockets, k.url = cfg.wsUrl) ?_ ?_ p t h
  · exact fun k hk => absurd hk List.not_mem_nil
  · intro p e t u _ ih hstep
    cases HamletGatewaySocket.moves_of_step hstep with
    | connected hp =>
        intro k hk
        rcases List.mem_append.mp hk with hk | hk
        · exact ih k hk
        · rw [List.mem_singleton.mp hk]
    | shutdownClose hp => exact hwrite .close t.sockets ih
    | registerSent text hp hjson => exact hwrite (.text text) t.sockets ih
    | sent text hp => exact hwrite (.text text) t.sockets ih
    | pong data hp => exact hwrite (.pong data) t.sockets ih
    | _ => exact ih

/-- A task that was shut down has stopped. -/
theorem stopped_of_shutdown {cfg : TaskConfig} {backlog : List GatewayMessage}
    {p : List HamletGatewaySocket.Event} {t : TaskState}
    (h : run (HamletGatewaySocket.step cfg) (HamletGatewaySocket.start backlog) p = some t)
    {b : Bool} (hmem : .shutdown b ∈ p) : t.phase = .stopped := by
  revert hmem
  refine run_induction (P := fun p t => HamletGatewaySocket.Event.shutdown b ∈ p →
    t.phase = .stopped) (fun hmem => absurd hmem List.not_mem_nil) ?_ p t h
  intro p e t u _ ih hstep hmem
  have hmoves := HamletGatewaySocket.moves_of_step hstep
  rcases List.mem_append.mp hmem with hold | hnew
  · -- nothing moves a task that has stopped
    have hp := ih hold
    cases hmoves with
    | enqueue msg hne => exact absurd hp hne
    | shutdown b => rfl
    | shutdownClose => rfl
    | inbound hrun => rw [hrun] at hp; cases hp
    | ping data hrun => rw [hrun] at hp; cases hp
    | pong data hrun => rw [hrun] at hp; cases hp
    | unserialisable msg rest err hrun => rw [hrun] at hp; cases hp
    | connect hrun => rw [hrun] at hp; cases hp
    | connectFailed hrun => rw [hrun] at hp; cases hp
    | connected hrun => rw [hrun] at hp; cases hp
    | registerSent text hrun => rw [hrun] at hp; cases hp
    | registerSendFailed hrun => rw [hrun] at hp; cases hp
    | registerUnserialisable hrun => rw [hrun] at hp; cases hp
    | outbound msg rest text hrun => rw [hrun] at hp; cases hp
    | sent text hrun => rw [hrun] at hp; cases hp
    | sendFailed text hrun => rw [hrun] at hp; cases hp
    | closed hrun => rw [hrun] at hp; cases hp
    | slept hrun => rw [hrun] at hp; cases hp
  · obtain rfl := List.mem_singleton.mp hnew
    cases hmoves with
    | shutdown => rfl
    | shutdownClose => rfl

/-- What the gateway is to be told about a message of a beacon. -/
def relayed (app : App) (toJson : GatewayMessage → Except String String) (msg : MqttMessage) :
    List String :=
  (toJson (.beaconRegistration app.serverUrl msg.payload.value)).toOption.toList

theorem taskOf_relayConnection (app : App) (toJson : GatewayMessage → Except String String)
    (msg : MqttMessage) (u : String) :
    taskOf toJson (relayConnection app msg u) = ⟨app.serverUrl, computeWsUrl u, toJson⟩ := by
  rw [taskOf, relayConnection, Connection.send, connectToGateway]

/-- What is queued on the connection of a message, as text. -/
theorem texts_relayConnection (cfg : TaskConfig) (app : App) (msg : MqttMessage) (u : String) :
    cfg.texts (relayConnection app msg u).queued = relayed app cfg.toJson msg := by
  have hqueued : (relayConnection app msg u).queued =
      [.beaconRegistration app.serverUrl msg.payload.value] := rfl
  rw [hqueued, relayed]
  cases hjson : cfg.toJson (.beaconRegistration app.serverUrl msg.payload.value) with
  | ok text => exact HamletGatewaySocket.texts_cons_ok hjson []
  | error err => exact HamletGatewaySocket.texts_cons_error hjson []

/-- **From a beacon to a gateway.** In every interleaving of the message loop and its connection
    tasks, each task was started for a message that advertised its gateway; all its connections are
    to the endpoint of that gateway and begin with a Register frame; over all of them the payload of
    the message, unchanged, is written at most once and nothing else is; it HAS been written when
    the loop is not inside `handle.send`, the task is idle with an empty queue and no send has
    failed; and the task is not shut down while a record, a sweep or the loop holds its sender. -/
theorem relay_end_to_end (app : App) (toJson : GatewayMessage → Except String String)
    (es : List Event) (n : Node) (h : run (step app toJson) (Node.init app) es = some n) (k : ℕ)
    (t : TaskState) (ht : n.tasks[k]? = some t) :
    ∃ msg now u, .loop (.message msg now) ∈ es ∧ advertisedGateway msg.payload.value = some u ∧
      (∀ socket ∈ t.sockets, socket.url = computeWsUrl u ∧
        RegisterFirst ⟨app.serverUrl, computeWsUrl u, toJson⟩ socket) ∧
      t.delivered.Sublist (relayed app toJson msg) ∧
      (n.sending = none → t.phase = .running → t.outbound = [] → .task k .sendFailed ∉ es →
        t.delivered = relayed app toJson msg) ∧
      (n.held k = true → t.phase ≠ .stopped) := by
  have hinv := nodeInv_run h
  have hk : k < n.loop.connections.length := by
    rw [← hinv.lengths]
    exact (List.getElem?_eq_some_iff.mp ht).1
  obtain ⟨c, hc⟩ : ∃ c, n.loop.connections[k]? = some c := ⟨_, List.getElem?_eq_getElem hk⟩
  obtain ⟨msg, now, u, hmem, hu, rfl⟩ := hinv.origin k c hc
  obtain ⟨p, hrun, hq, hevents⟩ := hinv.task k _ t hc ht
  rw [taskOf_relayConnection] at hrun
  -- what was queued is the payload, or nothing yet
  have htexts : HamletGatewaySocket.enqueuedTexts ⟨app.serverUrl, computeWsUrl u, toJson⟩ [] p =
      if n.sends k then [] else relayed app toJson msg := by
    rw [HamletGatewaySocket.enqueuedTexts, hq, Node.queuedFor, List.nil_append]
    split
    · rfl
    · exact texts_relayConnection _ app msg u
  have hcarried := HamletGatewaySocket.carried_run hrun
  rw [htexts] at hcarried
  refine ⟨msg, now, u, hmem, hu, ?_, ?_, ?_, ?_⟩
  · intro socket hsocket
    have hurl := socket_urls hrun socket hsocket
    dsimp only at hurl
    exact ⟨hurl, (HamletGatewaySocket.wire_run hrun).registered socket hsocket⟩
  · have hdelivered : t.delivered.Sublist
        (if n.sends k then [] else relayed app toJson msg) := by
      refine List.Sublist.trans ?_ hcarried
      rw [TaskState.carried, List.append_assoc]
      exact List.sublist_append_left ..
    split at hdelivered
    · exact hdelivered.trans (List.nil_sublist _)
    · exact hdelivered
  · intro hidle hphase hempty hfail
    have hnotstop : ∀ b, HamletGatewaySocket.Event.shutdown b ∉ p := by
      intro b hb
      have hstopped := stopped_of_shutdown hrun hb
      rw [hphase] at hstopped
      cases hstopped
    have hbooks := (HamletGatewaySocket.books_run hrun hnotstop).1
      fun hmem => hfail (hevents _ hmem rfl)
    rw [htexts, sends_of_idle hidle] at hbooks
    have hflight : t.inFlight = [] := by
      refine HamletGatewaySocket.inFlight_eq_nil ?_
      intro text hsending
      rw [hphase] at hsending
      cases hsending
    rw [TaskState.carried, hempty, hflight] at hbooks
    simpa using hbooks
  · intro hheld hstopped
    obtain ⟨hfree, hsends⟩ := hinv.stopped k t ht hstopped
    rw [Node.held, not_held_of_freeHolds hfree, hsends] at hheld
    cases hheld

/-- `serde_json::to_string` on the two frames of a relayed advert, for texts without escapes. -/
def advertJson : GatewayMessage → Except String String
  | .register url => .ok ("\x7b\"type\":\"register\",\"server_url\":\"" ++ url ++ "\"\x7d")
  | .beaconRegistration url (.object [("gateway_url", .string gateway)]) =>
      .ok ("\x7b\"type\":\"beacon_registration\",\"server_url\":\"" ++ url ++
        "\",\"payload\":\x7b\"gateway_url\":\"" ++ gateway ++ "\"\x7d\x7d")
  | _ => .error "not a plain message"

/-- A beacon advertises a gateway; the task is connecting before the payload is queued, loses its
    connection after the payload, and connects again. -/
def relayRun : List Event :=
  [.loop (.channel (listenChannel "b1") 0 (.ok ())),
    .loop (.message (advert "b1/rec" "http://gw") 0),
    .task 0 .connect, .send, .task 0 .connected, .task 0 .registerSent, .task 0 .outbound,
    .task 0 .sent, .task 0 .closed, .task 0 (.slept 2), .task 0 .connect, .task 0 .connected,
    .task 0 .registerSent]

theorem relay_end_to_end_advert :
    ∃ n, run (step gatewayApp advertJson) (Node.init gatewayApp) relayRun = some n ∧
      ∃ t, n.tasks[0]? = some t ∧ t.sockets.length = 2 ∧ t.delivered.length = 1 ∧
        ∃ msg, t.delivered.Sublist (relayed gatewayApp advertJson msg) := by
  refine ⟨_, rfl, _, rfl, rfl, rfl, ?_⟩
  obtain ⟨msg, now, u, -, -, -, hsub, -⟩ :=
    relay_end_to_end gatewayApp advertJson relayRun _ rfl 0 _ rfl
  exact ⟨msg, hsub⟩

end HamletRelay
