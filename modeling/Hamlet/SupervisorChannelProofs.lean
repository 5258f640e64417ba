import Hamlet.Lib.SenderLineProofs
import Hamlet.InterleavingProofs

/-!
# Calling the supervisor

Nobody calls the supervisor directly: a `SupervisorHandle` sends a command with a one-shot reply
into a channel of 32 places, and the supervisor task serves the channel. Handles are cloned freely,
so any number of calls is under way at once. The task leaves its loop when the last handle is gone,
and then stops every service, in whatever order the map of services is iterated.

* `calls_linearizable` — over every interleaving, the replies are those of the commands served one
  after another, in an order that respects real time; and no call ever returns one of the two
  channel errors that the handle has texts for;
* `open_call_returns` — callers that find the channel full stand in line; in every fair execution a
  call under way returns its reply, unless its caller is cancelled;
* `starts_exclude_each_other` — of concurrent starts of one service at most one returns `Ok`, until
  somebody stops or restarts it;
* `shutdown_stops_all` — the task ends only after every command it accepted was served; the stops
  that follow leave no service running, and their order does not matter.
-/

namespace HamletSupervisorChannel

open EventRun Noninterference Mailbox
open HamletSupervisor HamletService HamletInterleaving

variable {κ σ ω : Type} [DecidableEq κ] [ManagedService σ ω]

-- ── The channel ──────────────────────────────────────────────────────────────

/-- `channel_buffer`; the loop of `spawn` ends only when all handles are gone. -/
def channel : Params where
  capacity      := 32
  interruptible := false

/-- The calls in flight, the channel and the supervisor task. -/
abbrev Calls (κ σ ω : Type) := State κ (Command ω) Reply (Supervisor σ)

/-- A run of calls on a spawned supervisor. -/
def Runs (sup : Supervisor σ) (es : List (Event κ (Command ω))) (s : Calls κ σ ω) : Prop :=
  Reaches channel turn sup es s

/-- What a method of `SupervisorHandle` returns to its caller. -/
def handleResult : Except Failure Reply → Except String Reply
  | .error .closed => .error "supervisor channel closed"
  | .error .dropped => .error "supervisor dropped reply"
  | .ok r => .ok r

/-- The commands served, in order. -/
def commandsServed (s : Calls κ σ ω) : List (Command ω) := s.log.map Entry.request

/-- A reply of the type the command's one-shot has. -/
def IsReplyTo (cmd : Command ω) (r : Reply) : Prop :=
  match cmd with
  | .status => ∃ map, r = .statuses map
  | _ => ∃ result, r = .done result

theorem isReplyTo_turn (sup : Supervisor σ) (cmd : Command ω) : IsReplyTo cmd (turn sup cmd).2 := by
  cases cmd with
  | status => exact ⟨_, rfl⟩
  | start id env => exact ⟨_, rfl⟩
  | stop id env => exact ⟨_, rfl⟩
  | restart id stopEnv startEnv => exact ⟨_, rfl⟩

variable {sup : Supervisor σ} {es : List (Event κ (Command ω))} {s : Calls κ σ ω}

/-- The state and the replies of the task, in terms of the supervisor loop. -/
theorem Runs.served (h : Runs sup es s) :
    s.server = (serveAll sup (commandsServed s)).sup ∧
      s.log.map Entry.reply = (serveAll sup (commandsServed s)).replies := by
  obtain ⟨hsup, hreplies⟩ := serveAll_exec sup (commandsServed s)
  have hserial : exec turn sup (commandsServed s) =
      (s.server, s.log.map fun x => (x.request, x.reply)) := h.linearized.serial
  rw [hserial] at hsup hreplies
  refine ⟨hsup.symm, ?_⟩
  rw [hreplies, List.map_map]
  rfl

/-- A call that returned has been served, and has the reply to its command. -/
theorem Runs.returned (h : Runs sup es s) {c : κ} {outcome : Except Failure Reply}
    (hret : s.stage c = .returned outcome) :
    ∃ cmd r, outcome = .ok r ∧ .invoke c cmd ∈ es ∧ ⟨c, cmd, r⟩ ∈ s.log ∧ IsReplyTo cmd r := by
  cases outcome with
  | error f => exact nomatch (h.failed hret).2.1
  | ok r =>
      obtain ⟨cmd, hmem⟩ := h.linearized.returned c r hret
      obtain ⟨l₁, l₂, hlog⟩ := List.append_of_mem hmem
      refine ⟨cmd, r, rfl, h.linearized.made _ hmem, hmem, ?_⟩
      have hreply : r = _ := h.linearized.reply_eq hlog
      rw [hreply]
      exact isReplyTo_turn _ cmd

/-- **The calls on a supervisor are linearizable.** Whatever the callers and the task do, in any
    order: the supervisor and its replies are those of the served commands, one after another; every
    call that returned did so with the reply to its own command, never with a channel error; each
    command is served once, in the order of the channel, of which at most 32 places are taken; and
    a call made after another had returned is served after it. -/
theorem calls_linearizable (sup : Supervisor σ) (es : List (Event κ (Command ω)))
    (s : Calls κ σ ω) (h : Runs sup es s) :
    (s.server = (serveAll sup (commandsServed s)).sup ∧
        s.log.map Entry.reply = (serveAll sup (commandsServed s)).replies) ∧
      (∀ c outcome, s.stage c = .returned outcome →
        ∃ cmd r, handleResult outcome = .ok r ∧ .invoke c cmd ∈ es ∧ ⟨c, cmd, r⟩ ∈ s.log ∧
          IsReplyTo cmd r) ∧
      (s.log.map Entry.call).Nodup ∧
      s.log.map Entry.call <+: enqueued es ∧
      s.queue.length ≤ 32 ∧
      ∀ p q c d cmd r u, es = p ++ .invoke d cmd :: q → Runs sup p u →
        u.stage c = .returned (.ok r) →
        ∃ l₁ l₂, s.log = l₁ ++ l₂ ∧ c ∈ l₁.map Entry.call ∧ d ∉ l₁.map Entry.call := by
  refine ⟨h.served, ?_, h.linearized.once, h.linearized.fifo, h.inv.capacity, ?_⟩
  · intro c outcome hret
    obtain ⟨cmd, r, rfl, hcall⟩ := h.returned hret
    exact ⟨cmd, r, rfl, hcall⟩
  · rintro p q c d cmd r u rfl hu hret
    exact log_after_return hu hret h

/-- Two callers at once: the second command enters the channel while the first is served, and both
    return. -/
def twoCallers : List (Event ℕ (Command Externals)) :=
  [.invoke 0 (.start .mosquitto (fairWeather true)), .invoke 1 .status, .enqueue 0, .take,
    .enqueue 1, .answer, .take, .receive 0, .answer, .receive 1]

theorem calls_linearizable_twoCallers :
    ∃ s : Calls ℕ AnyService Externals, Runs gatewayAndBroker twoCallers s ∧
      commandsServed s = [.start .mosquitto (fairWeather true), .status] ∧
      s.server.statuses .mosquitto = some (.running 1234) ∧
      s.server = (serveAll gatewayAndBroker (commandsServed s)).sup := by
  have hrun : Runs gatewayAndBroker twoCallers _ := rfl
  exact ⟨_, hrun, rfl, rfl, (calls_linearizable gatewayAndBroker twoCallers _ hrun).1.1⟩

-- ── Waiting ──────────────────────────────────────────────────────────────────

/-- An execution without end of callers, channel and task. Callers that find the channel full stand
    in line for its places, as `tokio::sync::mpsc` has them do. -/
abbrev Executions (κ σ ω : Type) [DecidableEq κ] [ManagedService σ ω] :=
  FairRun.Execution (SenderLine.step channel turn : SenderLine.State κ (Command ω) Reply
    (Supervisor σ) → SenderLine.Event κ (Command ω) → _)

/-- **Every call returns.** In every execution in which the task and each caller are scheduled again
    and again while they have something to do — the calls of a service end, and a caller that was
    given a place uses it or is dropped — a call that is under way returns the reply to its command,
    or is given up by its own caller. Nothing that the other callers do can prevent it. -/
theorem open_call_returns (sup : Supervisor σ) (x : Executions κ σ ω)
    (hinit : x.state 0 = .init sup) (hfair : x.Fair SenderLine.owns) (n : ℕ) (c : κ)
    (hopen : ((x.state n).calls.stage c).isOpen = true) :
    ∃ m ≥ n, (∃ k ≤ m, ∃ cmd r, x.event k = some (.call (.invoke c cmd)) ∧
        (x.state (m + 1)).calls.stage c = .returned (.ok r) ∧
        ⟨c, cmd, r⟩ ∈ (x.state (m + 1)).calls.log ∧ IsReplyTo cmd r) ∨
      x.event m = some (.call (.abandon c)) := by
  have hroom : 0 < channel.capacity := by decide
  obtain ⟨m, hm, hend⟩ := SenderLine.open_call_ends hinit rfl hroom hfair hopen
  refine ⟨m, hm, hend.imp (fun ⟨r, hret⟩ => ?_) id⟩
  obtain ⟨es, hrun, hevents⟩ := SenderLine.reaches hinit (m + 1)
  obtain ⟨cmd, r', hr, hmade, hserved⟩ := Runs.returned hrun hret
  obtain rfl := Except.ok.inj hr
  obtain ⟨k, hk, hevent⟩ := hevents _ hmade
  exact ⟨k, Nat.le_of_lt_succ hk, cmd, r, hevent, hret, hserved⟩

/-- A caller starts the broker, and all is quiet once it has its reply. -/
def startBroker : List (SenderLine.Event ℕ (Command Externals)) :=
  [.call (.invoke 0 (.start .mosquitto (fairWeather true))), .call (.enqueue 0), .call .take,
    .call .answer, .call (.receive 0)]

theorem open_call_returns_waiting :
    ∃ x : Executions ℕ AnyService Externals,
      x.state 0 = .init gatewayAndBroker ∧ x.Fair SenderLine.owns ∧
        ((x.state 2).calls.stage 0).isOpen = true ∧
        ∃ m ≥ 2, (∃ k ≤ m, ∃ cmd r, x.event k = some (.call (.invoke 0 cmd)) ∧
            (x.state (m + 1)).calls.stage 0 = .returned (.ok r) ∧
            ⟨0, cmd, r⟩ ∈ (x.state (m + 1)).calls.log ∧ IsReplyTo cmd r) ∨
          x.event m = some (.call (.abandon 0)) := by
  have hrun : run (SenderLine.step channel turn) (.init gatewayAndBroker) startBroker =
      some _ := rfl
  have hquiet := FairRun.Execution.fair_ofRun hrun
    (SenderLine.at_rest (by rintro (_ | c) <;> rfl) rfl rfl)
  exact ⟨.ofRun hrun, rfl, hquiet, rfl,
    open_call_returns gatewayAndBroker (.ofRun hrun) rfl hquiet 2 0 rfl⟩

-- ── Concurrent starts ────────────────────────────────────────────────────────

/-- The commands that may end a running service. -/
def Ends (id : ServiceId) : Command ω → Prop
  | .stop id' _ => id' = id
  | .restart id' _ _ => id' = id
  | _ => False

/-- When `start()` was called and the handler returned `Ok`, the service is running. -/
theorem started_of_ok {id : ServiceId} {env : ω} {st : ServiceStatus}
    (hst : sup.statuses id = some st) (hable : st = .stopped ∨ ∃ e, st = .failed e)
    (hok : (sup.handleStart id env).result = .ok ()) :
    ∃ pid, (sup.handleStart id env).sup.statuses id = some (.running pid) := by
  cases hsvc : (sup.setStatus id .starting).services id with
  | none => rcases hable with rfl | ⟨e, rfl⟩ <;> simp [Supervisor.handleStart, hst, hsvc] at hok
  | some svc =>
      rcases hstart : ManagedService.start svc env with ⟨r, svc'⟩
      cases r with
      | error reason =>
          rcases hable with rfl | ⟨e, rfl⟩ <;>
            simp [Supervisor.handleStart, hst, hsvc, hstart] at hok
      | ok pid =>
          refine ⟨pid, ?_⟩
          have hsup : (sup.handleStart id env).sup =
              ((sup.setStatus id .starting).setService id svc').setStatus id (.running pid) := by
            rcases hable with rfl | ⟨e, rfl⟩ <;>
              simp only [Supervisor.handleStart, hst, hsvc, hstart]
          rw [hsup]
          exact Function.update_self ..

/-- A start that returns `Ok` leaves the service running. -/
theorem turn_start_ok {id : ServiceId} {env : ω}
    (h : (turn sup (.start id env)).2 = .done (.ok ())) :
    ∃ pid, (turn sup (.start id env)).1.statuses id = some (.running pid) := by
  have hok : (sup.handleStart id env).result = .ok () := Reply.done.inj h
  show ∃ pid, (sup.handleStart id env).sup.statuses id = some (.running pid)
  cases hst : sup.statuses id with
  | none => simp [Supervisor.handleStart, hst] at hok
  | some st =>
      cases st with
      | unavailable => simp [Supervisor.handleStart, hst] at hok
      | starting => simp [Supervisor.handleStart, hst] at hok
      | running pid => simp [Supervisor.handleStart, hst] at hok
      | stopped => exact started_of_ok hst (.inl rfl) hok
      | failed e => exact started_of_ok hst (.inr ⟨e, rfl⟩) hok

/-- A start of a running service is refused. -/
theorem turn_start_running {id : ServiceId} {env : ω} {pid : ℕ}
    (h : sup.statuses id = some (.running pid)) :
    turn sup (.start id env) = (sup, .done (.error (id.debug ++ " is already running"))) := by
  simp only [turn, Supervisor.handleStart, h]

/-- A running service stays running while nobody stops or restarts it. -/
theorem turn_running {id : ServiceId} {pid : ℕ} {cmd : Command ω} (hcmd : ¬ Ends id cmd)
    (h : sup.statuses id = some (.running pid)) :
    (turn sup cmd).1.statuses id = some (.running pid) := by
  by_cases hid : service cmd = some id
  · cases cmd with
    | start id' env =>
        obtain rfl : id' = id := Option.some.inj hid
        rw [turn_start_running h]
        exact h
    | stop id' env => exact absurd (Option.some.inj hid) hcmd
    | restart id' stopEnv startEnv => exact absurd (Option.some.inj hid) hcmd
    | status => exact nomatch hid
  · have hslot := turn_independent.frame sup cmd id hid
    exact (slot_eq_iff.mp hslot).2.trans h

theorem exec_running {id : ServiceId} {pid : ℕ} {cmds : List (Command ω)}
    (hcmds : ∀ cmd ∈ cmds, ¬ Ends id cmd) (h : sup.statuses id = some (.running pid)) :
    (exec turn sup cmds).1.statuses id = some (.running pid) := by
  induction cmds generalizing sup with
  | nil => exact h
  | cons cmd cmds ih =>
      refine ih (fun c hc => hcmds c (List.mem_cons_of_mem _ hc)) ?_
      exact turn_running (hcmds cmd List.mem_cons_self) h

/-- Between two starts of a service that were answered `Ok` somebody ended it. -/
theorem ended_between (h : Runs sup es s) {id : ServiceId} {env env' : ω}
    {l₁ l₂ l₃ : List (Entry κ (Command ω) Reply)} {c d : κ}
    (hlog : s.log = l₁ ++ ⟨c, .start id env, .done (.ok ())⟩ ::
      (l₂ ++ ⟨d, .start id env', .done (.ok ())⟩ :: l₃)) :
    ∃ x ∈ l₂, Ends id x.request := by
  by_contra hnone
  have hquiet : ∀ cmd ∈ l₂.map Entry.request, ¬ Ends id cmd := by
    intro cmd hcmd hends
    obtain ⟨x, hx, rfl⟩ := List.mem_map.mp hcmd
    exact hnone ⟨x, hx, hends⟩
  have hfirst := h.linearized.reply_eq hlog
  obtain ⟨pid, hpid⟩ := turn_start_ok hfirst.symm
  have hlog' : s.log = (l₁ ++ ⟨c, .start id env, .done (.ok ())⟩ :: l₂) ++
      ⟨d, .start id env', .done (.ok ())⟩ :: l₃ := by
    rw [hlog, List.append_assoc, List.cons_append]
  have hsecond := h.linearized.reply_eq hlog'
  have hbefore := exec_running hquiet hpid
  rw [List.map_append, List.map_cons, exec_append, exec, turn_start_running hbefore] at hsecond
  cases Reply.done.inj hsecond

/-- Two entries of a list, one before the other. -/
theorem split_two {α : Type} {l : List α} {x y : α} (hx : x ∈ l) (hy : y ∈ l) (hne : x ≠ y) :
    (∃ l₁ l₂ l₃, l = l₁ ++ x :: (l₂ ++ y :: l₃)) ∨ ∃ l₁ l₂ l₃, l = l₁ ++ y :: (l₂ ++ x :: l₃) := by
  obtain ⟨l₁, l₂, rfl⟩ := List.append_of_mem hx
  rcases List.mem_append.mp hy with hbefore | hafter
  · obtain ⟨m₁, m₂, rfl⟩ := List.append_of_mem hbefore
    exact .inr ⟨m₁, m₂, l₂, by rw [List.append_assoc, List.cons_append]⟩
  · rcases List.mem_cons.mp hafter with rfl | hlater
    · exact absurd rfl hne
    · obtain ⟨m₁, m₂, rfl⟩ := List.append_of_mem hlater
      exact .inl ⟨l₁, m₁, m₂, rfl⟩

/-- **Starts of one service exclude each other.** When two calls of `start_service` for the same
    service have returned `Ok`, a call to stop or restart it was made, and served between them. -/
theorem starts_exclude_each_other (sup : Supervisor σ) (es : List (Event κ (Command ω)))
    (s : Calls κ σ ω) (h : Runs sup es s) (id : ServiceId) (c d : κ) (env env' : ω) (hne : c ≠ d)
    (hc : .invoke c (.start id env) ∈ es) (hd : .invoke d (.start id env') ∈ es)
    (hcret : s.stage c = .returned (.ok (.done (.ok ()))))
    (hdret : s.stage d = .returned (.ok (.done (.ok ())))) :
    ∃ l₁ x l₂ y l₃, s.log = l₁ ++ x :: (l₂ ++ y :: l₃) ∧
      (x.call = c ∧ y.call = d ∨ x.call = d ∧ y.call = c) ∧
      ∃ z ∈ l₂, Ends id z.request ∧ .invoke z.call z.request ∈ es := by
  have hentry : ∀ {c : κ} {env : ω}, .invoke c (.start id env) ∈ es →
      s.stage c = .returned (.ok (.done (.ok ()))) →
      ⟨c, .start id env, .done (.ok ())⟩ ∈ s.log := by
    intro c env hinv hret
    obtain ⟨cmd, r, hr, hmade, hmem, -⟩ := h.returned hret
    obtain rfl := Except.ok.inj hr
    obtain rfl := Reaches.invoke_unique h hinv hmade
    exact hmem
  have hdiff : (⟨c, .start id env, .done (.ok ())⟩ : Entry κ (Command ω) Reply) ≠
      ⟨d, .start id env', .done (.ok ())⟩ := fun heq => hne (Entry.mk.inj heq).1
  rcases split_two (hentry hc hcret) (hentry hd hdret) hdiff with
    ⟨l₁, l₂, l₃, hlog⟩ | ⟨l₁, l₂, l₃, hlog⟩
  · obtain ⟨z, hz, hends⟩ := ended_between h hlog
    refine ⟨l₁, _, l₂, _, l₃, hlog, .inl ⟨rfl, rfl⟩, z, hz, hends, h.linearized.made z ?_⟩
    rw [hlog]
    exact List.mem_append_right _ (List.mem_cons_of_mem _ (List.mem_append_left _ hz))
  · obtain ⟨z, hz, hends⟩ := ended_between h hlog
    refine ⟨l₁, _, l₂, _, l₃, hlog, .inr ⟨rfl, rfl⟩, z, hz, hends, h.linearized.made z ?_⟩
    rw [hlog]
    exact List.mem_append_right _ (List.mem_cons_of_mem _ (List.mem_append_left _ hz))

/-- The broker is started, stopped and started again by three callers. -/
def startStopStart : List (Event ℕ (Command Externals)) :=
  [.invoke 0 (.start .mosquitto (fairWeather true)),
    .invoke 1 (.stop .mosquitto (fairWeather true)),
    .invoke 2 (.start .mosquitto (fairWeather true)), .enqueue 0, .enqueue 1, .enqueue 2,
    .take, .answer, .take, .answer, .take, .answer, .receive 2, .receive 0, .receive 1]

theorem starts_exclude_each_other_broker :
    ∃ s : Calls ℕ AnyService Externals, Runs gatewayAndBroker startStopStart s ∧
      ∃ l₁ x l₂ y l₃, s.log = l₁ ++ x :: (l₂ ++ y :: l₃) ∧
        (x.call = 0 ∧ y.call = 2 ∨ x.call = 2 ∧ y.call = 0) ∧
        ∃ z ∈ l₂, Ends .mosquitto z.request ∧ .invoke z.call z.request ∈ startStopStart := by
  have hrun : Runs gatewayAndBroker startStopStart _ := rfl
  exact ⟨_, hrun, starts_exclude_each_other gatewayAndBroker startStopStart _ hrun .mosquitto 0 2
    (fairWeather true) (fairWeather true) (by decide) List.mem_cons_self
    (List.mem_cons_of_mem _ (List.mem_cons_of_mem _ List.mem_cons_self)) rfl rfl⟩

-- ── Shutting down ────────────────────────────────────────────────────────────

/-- The loop after the channel is closed: `stop()` on each service, and a warning when it fails. The
    map is iterated in the order `order`, the statuses are not written any more. -/
def shutdown (answers : ServiceId → ω) (sup : Supervisor σ) :
    List ServiceId → Supervisor σ × List Call
  | [] => (sup, [])
  | id :: order =>
      match sup.services id with
      | none => shutdown answers sup order
      | some svc =>
          let stopped := ManagedService.stop svc (answers id)
          let rest := shutdown answers (sup.setService id stopped.2) order
          (rest.1, ⟨id, .stop stopped.1⟩ :: rest.2)

/-- An order in which the services can be iterated: every key of the map, once. -/
structure IterationOrder (sup : Supervisor σ) (order : List ServiceId) : Prop where
  nodup : order.Nodup
  keys  : ∀ id, id ∈ order ↔ (sup.services id).isSome = true

/-- A service that the loop does not come to is left alone. -/
theorem shutdown_of_notMem (answers : ServiceId → ω) {id : ServiceId} {order : List ServiceId} :
    ∀ sup : Supervisor σ, id ∉ order →
      (shutdown answers sup order).1.services id = sup.services id := by
  induction order with
  | nil => exact fun _ _ => rfl
  | cons id' order ih =>
      intro sup hmem
      obtain ⟨hne, hrest⟩ := not_or.mp (mt List.mem_cons.mpr hmem)
      rw [shutdown]
      split
      · exact ih sup hrest
      · exact (ih _ hrest).trans (Function.update_of_ne hne ..)

/-- What the loop makes of every service, and the calls it makes. -/
theorem shutdown_spec (answers : ServiceId → ω) {order : List ServiceId} :
    ∀ sup : Supervisor σ, order.Nodup →
      (∀ id ∈ order, (shutdown answers sup order).1.services id =
        (sup.services id).map fun svc => (ManagedService.stop svc (answers id)).2) ∧
      (shutdown answers sup order).2 = order.filterMap fun id =>
        (sup.services id).map fun svc => ⟨id, .stop (ManagedService.stop svc (answers id)).1⟩ := by
  induction order with
  | nil => exact fun _ _ => ⟨fun _ h => absurd h List.not_mem_nil, rfl⟩
  | cons id order ih =>
      intro sup hnodup
      obtain ⟨hfresh, hnodup⟩ := List.nodup_cons.mp hnodup
      cases hsvc : sup.services id with
      | none =>
          have heq : shutdown answers sup (id :: order) = shutdown answers sup order := by
            rw [shutdown, hsvc]
          rw [heq]
          refine ⟨fun id' hid' => ?_, ?_⟩
          · rcases List.mem_cons.mp hid' with rfl | hlater
            · rw [shutdown_of_notMem answers sup hfresh, hsvc]
              rfl
            · exact (ih sup hnodup).1 id' hlater
          · rw [(ih sup hnodup).2, List.filterMap_cons, hsvc]
            rfl
      | some svc =>
          -- the services still to come are not touched by the stop of this one
          have hother : ∀ id' ∈ order, (sup.setService id
              (ManagedService.stop svc (answers id)).2).services id' = sup.services id' := by
            intro id' hid'
            have hne : id' ≠ id := fun heq => hfresh (heq ▸ hid')
            exact Function.update_of_ne hne ..
          have heq : shutdown answers sup (id :: order) =
              ((shutdown answers (sup.setService id (ManagedService.stop svc (answers id)).2)
                  order).1,
                ⟨id, .stop (ManagedService.stop svc (answers id)).1⟩ ::
                  (shutdown answers (sup.setService id (ManagedService.stop svc (answers id)).2)
                    order).2) := by
            rw [shutdown, hsvc]
          obtain ⟨ihsvc, ihcalls⟩ := ih
            (sup.setService id (ManagedService.stop svc (answers id)).2) hnodup
          rw [heq]
          refine ⟨fun id' hid' => ?_, ?_⟩
          · rcases List.mem_cons.mp hid' with rfl | hlater
            · rw [shutdown_of_notMem answers _ hfresh, hsvc]
              exact Function.update_self ..
            · rw [ihsvc id' hlater, hother id' hlater]
          · rw [List.filterMap_cons, hsvc, ihcalls]
            refine congrArg (_ :: ·) (List.filterMap_congr fun id' hid' => ?_)
            rw [hother id' hid']

theorem shutdown_statuses (answers : ServiceId → ω) {order : List ServiceId} :
    ∀ sup : Supervisor σ, (shutdown answers sup order).1.statuses = sup.statuses := by
  induction order with
  | nil => exact fun _ => rfl
  | cons id order ih =>
      intro sup
      rw [shutdown]
      split
      · exact ih sup
      · exact ih _

/-- One call for each key. -/
theorem shutdown_calls (answers : ServiceId → ω) {order : List ServiceId}
    (horder : IterationOrder sup order) :
    (shutdown answers sup order).2.map Call.service = order := by
  rw [(shutdown_spec answers sup horder.nodup).2, List.map_filterMap]
  have hall : ∀ id ∈ order, ((sup.services id).map fun svc =>
      (⟨id, .stop (ManagedService.stop svc (answers id)).1⟩ : Call)).map Call.service =
        some id := by
    intro id hid
    obtain ⟨svc, hsvc⟩ := Option.isSome_iff_exists.mp ((horder.keys id).mp hid)
    rw [hsvc]
    rfl
  rw [List.filterMap_congr hall]
  exact List.filterMap_some

/-- The order does not matter. -/
theorem shutdown_order (answers : ServiceId → ω) {order order' : List ServiceId}
    (horder : IterationOrder sup order) (horder' : IterationOrder sup order') :
    (shutdown answers sup order').1 = (shutdown answers sup order).1 ∧
      (shutdown answers sup order').2.Perm (shutdown answers sup order).2 := by
  have hperm : order'.Perm order :=
    (List.perm_ext_iff_of_nodup horder'.nodup horder.nodup).mpr fun id =>
      (horder'.keys id).trans (horder.keys id).symm
  obtain ⟨hsvc, hcalls⟩ := shutdown_spec answers sup horder.nodup
  obtain ⟨hsvc', hcalls'⟩ := shutdown_spec answers sup horder'.nodup
  constructor
  · have hservices : (shutdown answers sup order').1.services =
        (shutdown answers sup order).1.services := by
      funext id
      by_cases hid : id ∈ order
      · rw [hsvc id hid, hsvc' id (hperm.mem_iff.mpr hid)]
      · rw [shutdown_of_notMem answers sup hid,
          shutdown_of_notMem answers sup fun hmem => hid (hperm.mem_iff.mp hmem)]
    have hstatuses : (shutdown answers sup order').1.statuses =
        (shutdown answers sup order).1.statuses :=
      (shutdown_statuses answers sup).trans (shutdown_statuses answers sup).symm
    calc (shutdown answers sup order').1
        = ⟨(shutdown answers sup order').1.services,
            (shutdown answers sup order').1.statuses⟩ := rfl
      _ = ⟨(shutdown answers sup order).1.services, (shutdown answers sup order).1.statuses⟩ := by
          rw [hservices, hstatuses]
  · rw [hcalls, hcalls']
    exact hperm.filterMap _

/-- However a stop went, the service does not run afterwards. -/
theorem isRunning_stop (svc : AnyService) (env env' : Externals) :
    (ManagedService.isRunning (ManagedService.stop svc env).2 env').1 = false := by
  cases svc with
  | gateway s =>
      obtain ⟨config, shutdownTx, listening, closing⟩ := s
      cases shutdownTx <;> rfl
  | mosquitto s =>
      obtain ⟨config, child⟩ := s
      cases child <;> rfl
  | mqttClient s =>
      obtain ⟨config, cmdRx, shutdownTx, cmdShutdownTx, outRx, connectedTx⟩ := s
      cases shutdownTx <;> rfl
  | cloudGateway s => rfl
  | gatewayMqtt s => rfl

/-- **Shutting down.** When the supervisor task has left its loop, every command that entered the
    channel has been served. The stops that follow are one for each service; afterwards none runs,
    whatever its stop returned; a service reported as running is stopped without an error; and the
    order in which the map is iterated makes no difference. -/
theorem shutdown_stops_all (regs : List (Registration AnyService))
    (es : List (Event κ (Command Externals))) (s : Calls κ AnyService Externals)
    (h : Runs (registerAll regs) es s) (hend : s.receiver = false)
    (answers : ServiceId → Externals) (order : List ServiceId)
    (horder : IterationOrder s.server order) :
    s.log.map Entry.call = enqueued es ∧
      (shutdown answers s.server order).2.map Call.service = order ∧
      (∀ id svc, (shutdown answers s.server order).1.services id = some svc →
        ∀ env, (ManagedService.isRunning svc env).1 = false) ∧
      (∀ id c pid, lastRegistration regs id = some ⟨id, ServiceConfig.build c, true⟩ →
        s.server.statuses id = some (.running pid) →
        ⟨id, .stop (.ok ())⟩ ∈ (shutdown answers s.server order).2) ∧
      ∀ order', IterationOrder s.server order' →
        (shutdown answers s.server order').1 = (shutdown answers s.server order).1 ∧
          (shutdown answers s.server order').2.Perm (shutdown answers s.server order).2 := by
  obtain ⟨hsvcs, hcalls⟩ := shutdown_spec answers s.server horder.nodup
  refine ⟨?_, shutdown_calls answers horder, ?_, ?_, fun order' => shutdown_order answers horder⟩
  · obtain ⟨hqueue, hserving⟩ := h.inv.ended hend
    have hall := h.accepted_all rfl
    rw [State.accepted, hqueue, hserving] at hall
    exact (List.append_nil _).symm.trans hall
  · intro id svc hsvc env
    by_cases hid : id ∈ order
    · rw [hsvcs id hid] at hsvc
      obtain ⟨svc', -, rfl⟩ := Option.map_eq_some_iff.mp hsvc
      exact isRunning_stop svc' (answers id) env
    · -- every service is a key of the map
      rw [shutdown_of_notMem answers s.server hid] at hsvc
      exact absurd ((horder.keys id).mpr (by rw [hsvc]; rfl)) hid
  · intro id c pid hreg hst
    have hkeeps := runInv_serveAll regs id c hreg (commandsServed s)
    rw [← h.served.1] at hkeeps
    obtain ⟨svc, hsvc⟩ := hkeeps.same_keys.service hst
    have hstarted : svc.Started := (hkeeps.each id svc _ hsvc hst rfl).2 pid rfl
    have hid : id ∈ order := (horder.keys id).mpr (by rw [hsvc]; rfl)
    rw [hcalls]
    refine List.mem_filterMap.mpr ⟨id, hid, ?_⟩
    rw [hsvc, Option.map_some, (stop_spec svc (answers id)).2.1 hstarted]

/-- The broker is started, the last handle is dropped, the task ends. -/
def startThenLeave : List (Event ℕ (Command Externals)) :=
  [.invoke 0 (.start .mosquitto (fairWeather true)), .enqueue 0, .take, .answer, .receive 0,
    .hangUp, .finish]

/-- The broker is stopped, and the gateway, which was never started, is reported. -/
theorem shutdown_stops_all_broker :
    ∃ s : Calls ℕ AnyService Externals, Runs gatewayAndBroker startThenLeave s ∧
      s.server.statuses .mosquitto = some (.running 1234) ∧
      IterationOrder s.server [.gateway, .mosquitto] ∧
      ⟨.mosquitto, .stop (.ok ())⟩ ∈
        (shutdown (fun _ => fairWeather true) s.server [.gateway, .mosquitto]).2 ∧
      (shutdown (fun _ => fairWeather true) s.server [.gateway, .mosquitto]).2.map Call.service =
        [.gateway, .mosquitto] := by
  obtain ⟨s, hrun, hend, hst, hkeys⟩ : ∃ s : Calls ℕ AnyService Externals,
      Runs gatewayAndBroker startThenLeave s ∧ s.receiver = false ∧
        s.server.statuses .mosquitto = some (.running 1234) ∧
        ∀ id, (s.server.services id).isSome = decide (id ∈ [.gateway, .mosquitto]) :=
    ⟨_, rfl, rfl, rfl, by rintro (_ | _ | _ | _ | _) <;> rfl⟩
  have horder : IterationOrder s.server [.gateway, .mosquitto] :=
    ⟨by decide, fun id => by rw [hkeys, decide_eq_true_iff]⟩
  obtain ⟨-, hcalls, -, hstopped, -⟩ := shutdown_stops_all _ startThenLeave s hrun hend
    (fun _ => fairWeather true) [.gateway, .mosquitto] horder
  exact ⟨s, hrun, hst, horder,
    hstopped .mosquitto (.mosquitto (.fromEnv (fun _ => none) "/etc/hamlet")) 1234 rfl hst, hcalls⟩

end HamletSupervisorChannel
