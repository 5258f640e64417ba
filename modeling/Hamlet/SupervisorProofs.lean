import Hamlet.Lib.EventRunProofs
import Hamlet.Lib.HistoryProofs
import Mathlib.Logic.Function.Basic

/-!
# The supervisor against the history of its calls

The supervisor owns the managed services and serves its commands one after another; the status it
reports is bookkeeping beside the services, written by three handlers of which one calls the other
two and discards an error.

Two layers:

* the code — `handleStart`, `handleStop`, `handleRestart`, over ANY `ManagedService`: the outcome of
  each `start()` and `stop()` is whatever the service makes of an environment `ω`. A handler also
  returns the calls it made, so that the history of a run is data;
* the specification — `invoke`, a partial machine on statuses alone, driven by calls. It has no
  `Starting` and no discarded error.

`serve_refines` connects them: the calls of every run of the code are a run of `invoke`, and it ends
in the statuses the code reports. What is left — `supervisor_refines_history` — is a fact about runs
of a machine with two transitions. `Answers` is the other side: which calls a command makes, and
what its reply says of them.
-/

namespace HamletSupervisor

open EventRun

-- ── Services, statuses, commands ─────────────────────────────────────────────

inductive ServiceId where
  | gateway
  | mosquitto
  | mqttClient
  | cloudGateway
  | gatewayMqttClient
  deriving DecidableEq, Repr

/-- The `Debug` text of a service id. -/
def ServiceId.debug : ServiceId → String
  | .gateway => "Gateway"
  | .mosquitto => "Mosquitto"
  | .mqttClient => "MqttClient"
  | .cloudGateway => "CloudGateway"
  | .gatewayMqttClient => "GatewayMqttClient"

inductive ServiceStatus where
  | unavailable
  | stopped
  | starting
  | running (pid : ℕ)
  | failed (reason : String)
  deriving DecidableEq, Repr

/-- The trait `ManagedService`: `σ` is the service's own state, `ω` what its external calls
    answer. -/
class ManagedService (σ : Type) (ω : outParam Type) where
  start     : σ → ω → Except String ℕ × σ
  stop      : σ → ω → Except String Unit × σ
  isRunning : σ → ω → Bool × σ

inductive Command (ω : Type) where
  | start (service : ServiceId) (env : ω)
  | stop (service : ServiceId) (env : ω)
  | restart (service : ServiceId) (stopEnv startEnv : ω)
  | status

/-- What a `start()` or a `stop()` returned. -/
inductive CallResult where
  | start (result : Except String ℕ)
  | stop (result : Except String Unit)

/-- One call of a service's own method. -/
structure Call where
  service : ServiceId
  result  : CallResult

structure Supervisor (σ : Type) where
  services : ServiceId → Option σ
  statuses : ServiceId → Option ServiceStatus

inductive Reply where
  | done (result : Except String Unit)
  | statuses (map : ServiceId → Option ServiceStatus)

/-- What a handler leaves behind: its result, the supervisor, and the calls it made. -/
structure Handled (σ : Type) where
  result : Except String Unit
  sup    : Supervisor σ
  calls  : List Call

variable {σ ω : Type}

namespace Supervisor

def new : Supervisor σ where
  services := fun _ => none
  statuses := fun _ => none

def setStatus (sup : Supervisor σ) (id : ServiceId) (st : ServiceStatus) : Supervisor σ :=
  { sup with statuses := Function.update sup.statuses id (some st) }

def setService (sup : Supervisor σ) (id : ServiceId) (svc : σ) : Supervisor σ :=
  { sup with services := Function.update sup.services id (some svc) }

/-- `register`: a later registration of the same id replaces status and service. -/
def register (sup : Supervisor σ) (id : ServiceId) (service : σ) (available : Bool) :
    Supervisor σ :=
  (sup.setStatus id (if available then .stopped else .unavailable)).setService id service

variable [ManagedService σ ω]

/-- `handle_start`. -/
def handleStart (sup : Supervisor σ) (id : ServiceId) (env : ω) : Handled σ :=
  match sup.statuses id with
  | some .unavailable => ⟨.error (id.debug ++ " is not installed on this system"), sup, []⟩
  | some (.running _) => ⟨.error (id.debug ++ " is already running"), sup, []⟩
  | some .starting => ⟨.error (id.debug ++ " is already starting"), sup, []⟩
  | none => ⟨.error (id.debug ++ " is not registered"), sup, []⟩
  | some .stopped | some (.failed _) =>
      let sup := sup.setStatus id .starting
      match sup.services id with
      | none => ⟨.error (id.debug ++ " not registered"), sup, []⟩
      | some svc =>
          match ManagedService.start svc env with
          | (.ok pid, svc) =>
              ⟨.ok (), (sup.setService id svc).setStatus id (.running pid),
                [⟨id, .start (.ok pid)⟩]⟩
          | (.error e, svc) =>
              ⟨.error e, (sup.setService id svc).setStatus id (.failed e),
                [⟨id, .start (.error e)⟩]⟩

/-- `handle_stop`. A failed service is stopped like a running one; an unregistered one gets past
    the status check. -/
def handleStop (sup : Supervisor σ) (id : ServiceId) (env : ω) : Handled σ :=
  match sup.statuses id with
  | some .stopped => ⟨.error (id.debug ++ " is already stopped"), sup, []⟩
  | some .unavailable => ⟨.error (id.debug ++ " is not available"), sup, []⟩
  | some (.running _) | some .starting | some (.failed _) | none =>
      match sup.services id with
      | none => ⟨.error (id.debug ++ " not registered"), sup, []⟩
      | some svc =>
          match ManagedService.stop svc env with
          | (.ok (), svc) =>
              ⟨.ok (), (sup.setService id svc).setStatus id .stopped, [⟨id, .stop (.ok ())⟩]⟩
          | (.error e, svc) => ⟨.error e, sup.setService id svc, [⟨id, .stop (.error e)⟩]⟩

/-- `handle_restart`: stops a running service, ignores how that went, and starts it. -/
def handleRestart (sup : Supervisor σ) (id : ServiceId) (stopEnv startEnv : ω) : Handled σ :=
  match sup.statuses id with
  | some (.running _) =>
      let stopped := sup.handleStop id stopEnv
      let started := stopped.sup.handleStart id startEnv
      { started with calls := stopped.calls ++ started.calls }
  | _ => sup.handleStart id startEnv

end Supervisor

/-- The state of the supervisor task, with the calls it has made and the replies it has sent. -/
structure Served (σ : Type) where
  sup     : Supervisor σ
  calls   : List Call
  replies : List Reply

/-- The supervisor task up to its first command. -/
def Served.init (sup : Supervisor σ) : Served σ where
  sup     := sup
  calls   := []
  replies := []

/-- A handler's outcome becomes the state of the task. -/
def Served.extend (s : Served σ) (h : Handled σ) : Served σ where
  sup     := h.sup
  calls   := s.calls ++ h.calls
  replies := s.replies ++ [.done h.result]

/-- One turn of the supervisor loop. -/
def serve [ManagedService σ ω] (s : Served σ) : Command ω → Served σ
  | .start id env => s.extend (s.sup.handleStart id env)
  | .stop id env => s.extend (s.sup.handleStop id env)
  | .restart id stopEnv startEnv => s.extend (s.sup.handleRestart id stopEnv startEnv)
  | .status => { s with replies := s.replies ++ [.statuses s.sup.statuses] }

/-- All commands sent by all handles, in the order the channel delivers them. -/
def serveAll [ManagedService σ ω] (sup : Supervisor σ) (cmds : List (Command ω)) : Served σ :=
  cmds.foldl serve (.init sup)

theorem serveAll_concat [ManagedService σ ω] (sup : Supervisor σ) (cmds : List (Command ω))
    (cmd : Command ω) : serveAll sup (cmds ++ [cmd]) = serve (serveAll sup cmds) cmd := by
  rw [serveAll, List.foldl_append]
  rfl

structure Registration (σ : Type) where
  id        : ServiceId
  service   : σ
  available : Bool

/-- The `register` calls before `spawn`. -/
def registerAll (regs : List (Registration σ)) : Supervisor σ :=
  regs.foldl (fun sup r => sup.register r.id r.service r.available) .new

/-- The registration of an id that counts. -/
def lastRegistration (regs : List (Registration σ)) (id : ServiceId) : Option (Registration σ) :=
  regs.reverse.find? fun r => decide (r.id = id)

-- ── The specification: a machine driven by calls ─────────────────────────────

/-- A service that may be started. -/
def ServiceStatus.startable : ServiceStatus → Bool
  | .stopped => true
  | .failed _ => true
  | _ => false

/-- A service whose `stop()` may be called. -/
def ServiceStatus.stoppable : ServiceStatus → Bool
  | .running _ => true
  | .failed _ => true
  | _ => false

/-- The status after a `start()`. -/
def statusOfStart : Except String ℕ → ServiceStatus
  | .ok pid => .running pid
  | .error e => .failed e

/-- The status after a `stop()`; one that fails changes nothing. -/
def statusOfStop (st : ServiceStatus) : Except String Unit → ServiceStatus
  | .ok () => .stopped
  | .error _ => st

/-- What a call makes of the status of its service, and when it may happen at all. -/
def ServiceStatus.after (st : ServiceStatus) : CallResult → Option ServiceStatus
  | .start r => if st.startable then some (statusOfStart r) else none
  | .stop r => if st.stoppable then some (statusOfStop st r) else none

/-- One call, on the statuses of all services. -/
def invoke (sts : ServiceId → Option ServiceStatus) (c : Call) :
    Option (ServiceId → Option ServiceStatus) :=
  (sts c.service).bind fun st =>
    (st.after c.result).map fun st' => Function.update sts c.service (some st')

theorem invoke_eq_some {sts sts' : ServiceId → Option ServiceStatus} {c : Call} :
    invoke sts c = some sts' ↔
      ∃ st st', sts c.service = some st ∧ st.after c.result = some st' ∧
        sts' = Function.update sts c.service (some st') := by
  simp only [invoke, Option.bind_eq_some_iff, Option.map_eq_some_iff]
  constructor
  · rintro ⟨st, hst, st', hafter, rfl⟩
    exact ⟨st, st', hst, hafter, rfl⟩
  · rintro ⟨st, st', hst, hafter, rfl⟩
    exact ⟨st, hst, st', hafter, rfl⟩

theorem after_start_eq_some {st st' : ServiceStatus} {r : Except String ℕ} :
    st.after (.start r) = some st' ↔ st.startable = true ∧ st' = statusOfStart r := by
  rw [ServiceStatus.after]
  by_cases h : st.startable = true
  · rw [if_pos h]; simp [h, eq_comm]
  · rw [if_neg h]; simp [h]

theorem after_stop_eq_some {st st' : ServiceStatus} {r : Except String Unit} :
    st.after (.stop r) = some st' ↔ st.stoppable = true ∧ st' = statusOfStop st r := by
  rw [ServiceStatus.after]
  by_cases h : st.stoppable = true
  · rw [if_pos h]; simp [h, eq_comm]
  · rw [if_neg h]; simp [h]

/-- No call is made on a service that is `Unavailable` or `Starting`, and none leads there. -/
theorem after_settled {st st' : ServiceStatus} {r : CallResult} (h : st.after r = some st') :
    (st ≠ .unavailable ∧ st ≠ .starting) ∧ st' ≠ .unavailable ∧ st' ≠ .starting := by
  cases r with
  | start r =>
      obtain ⟨hst, rfl⟩ := after_start_eq_some.mp h
      refine ⟨⟨?_, ?_⟩, ?_⟩
      · rintro rfl; exact Bool.noConfusion hst
      · rintro rfl; exact Bool.noConfusion hst
      · cases r <;> simp [statusOfStart]
  | stop r =>
      obtain ⟨hst, rfl⟩ := after_stop_eq_some.mp h
      have hold : st ≠ .unavailable ∧ st ≠ .starting := by
        refine ⟨?_, ?_⟩
        · rintro rfl; exact Bool.noConfusion hst
        · rintro rfl; exact Bool.noConfusion hst
      refine ⟨hold, ?_⟩
      cases r with
      | ok u => simp [statusOfStop]
      | error e => exact hold

-- ── What a handler can do ────────────────────────────────────────────────────

/-- `statuses` and `services` have the same keys. -/
def Supervisor.SameKeys (sup : Supervisor σ) : Prop :=
  ∀ id, (sup.statuses id).isSome = (sup.services id).isSome

/-- No status is `Starting`. -/
def NeverStarting (sts : ServiceId → Option ServiceStatus) : Prop :=
  ∀ id, sts id ≠ some .starting

/-- Write the service and the status of one id. -/
def Supervisor.set (sup : Supervisor σ) (id : ServiceId) (svc : σ) (st : ServiceStatus) :
    Supervisor σ where
  services := Function.update sup.services id (some svc)
  statuses := Function.update sup.statuses id (some st)

@[simp] theorem Supervisor.set_services_self (sup : Supervisor σ) (id : ServiceId) (svc : σ)
    (st : ServiceStatus) : (sup.set id svc st).services id = some svc := Function.update_self ..

@[simp] theorem Supervisor.set_statuses_self (sup : Supervisor σ) (id : ServiceId) (svc : σ)
    (st : ServiceStatus) : (sup.set id svc st).statuses id = some st := Function.update_self ..

theorem Supervisor.SameKeys.set {sup : Supervisor σ} (h : sup.SameKeys) (id : ServiceId)
    (svc : σ) (st : ServiceStatus) : (sup.set id svc st).SameKeys := by
  intro id'
  by_cases hid : id' = id
  · subst hid
    simp [Supervisor.set]
  · simp [Supervisor.set, Function.update_of_ne hid, h id']

/-- A registered id has a service. -/
theorem Supervisor.SameKeys.service {sup : Supervisor σ} (h : sup.SameKeys) {id : ServiceId}
    {st : ServiceStatus} (hst : sup.statuses id = some st) : ∃ svc, sup.services id = some svc := by
  have hkey := h id
  rw [hst] at hkey
  exact Option.isSome_iff_exists.mp hkey.symm

section Handlers

variable [ManagedService σ ω] {sup : Supervisor σ}

/-- `handle_start` refuses and changes nothing, or calls `start()` once and records how it
    went. -/
theorem handleStart_cases (hk : sup.SameKeys) (id : ServiceId) (env : ω) :
    ((∀ st, sup.statuses id = some st → st.startable = false) ∧
        ∃ e, sup.handleStart id env = ⟨.error e, sup, []⟩) ∨
      ∃ st svc r svc', sup.statuses id = some st ∧ st.startable = true ∧
        sup.services id = some svc ∧ ManagedService.start svc env = (r, svc') ∧
        sup.handleStart id env =
          ⟨r.map fun _ => (), sup.set id svc' (statusOfStart r), [⟨id, .start r⟩]⟩ := by
  have hset : ∀ svc' st, ((sup.setStatus id .starting).setService id svc').setStatus id st =
      sup.set id svc' st := by
    intro svc' st
    simp [Supervisor.setStatus, Supervisor.setService, Supervisor.set]
  rw [Supervisor.handleStart]
  cases hst : sup.statuses id with
  | none => exact .inl ⟨fun _ h => (nomatch h), _, rfl⟩
  | some st =>
      obtain ⟨svc, hsvc⟩ := hk.service hst
      have hsvc' : (sup.setStatus id .starting).services id = some svc := hsvc
      rcases hr : ManagedService.start svc env with ⟨r, svc'⟩
      cases st with
      | unavailable => exact .inl ⟨fun st h => by rw [← Option.some.inj h]; rfl, _, rfl⟩
      | running pid => exact .inl ⟨fun st h => by rw [← Option.some.inj h]; rfl, _, rfl⟩
      | starting => exact .inl ⟨fun st h => by rw [← Option.some.inj h]; rfl, _, rfl⟩
      | stopped =>
          refine .inr ⟨.stopped, svc, r, svc', rfl, rfl, hsvc, hr, ?_⟩
          simp only [hsvc', hr]
          cases r with
          | ok pid => rw [← hset]; rfl
          | error e => rw [← hset]; rfl
      | failed reason =>
          refine .inr ⟨.failed reason, svc, r, svc', rfl, rfl, hsvc, hr, ?_⟩
          simp only [hsvc', hr]
          cases r with
          | ok pid => rw [← hset]; rfl
          | error e => rw [← hset]; rfl

/-- `handle_stop` refuses and changes nothing, or calls `stop()` once and records how it went. -/
theorem handleStop_cases (hk : sup.SameKeys) (hs : NeverStarting sup.statuses) (id : ServiceId)
    (env : ω) :
    ((∀ st, sup.statuses id = some st → st.stoppable = false) ∧
        ∃ e, sup.handleStop id env = ⟨.error e, sup, []⟩) ∨
      ∃ st svc r svc', sup.statuses id = some st ∧ st.stoppable = true ∧
        sup.services id = some svc ∧ ManagedService.stop svc env = (r, svc') ∧
        sup.handleStop id env = ⟨r, sup.set id svc' (statusOfStop st r), [⟨id, .stop r⟩]⟩ := by
  -- a stop that failed writes no status
  have hset : ∀ svc' st,
      sup.statuses id = some st → sup.setService id svc' = sup.set id svc' st := by
    intro svc' st hst
    rw [Supervisor.set, ← hst, Function.update_eq_self]
    rfl
  rw [Supervisor.handleStop]
  cases hst : sup.statuses id with
  | none =>
      have hnone : sup.services id = none := by
        have hkey := hk id
        rw [hst] at hkey
        exact Option.not_isSome_iff_eq_none.mp (by rw [← hkey]; decide)
      simp only [hnone]
      exact .inl ⟨fun _ h => (nomatch h), _, rfl⟩
  | some st =>
      obtain ⟨svc, hsvc⟩ := hk.service hst
      rcases hr : ManagedService.stop svc env with ⟨r, svc'⟩
      cases st with
      | unavailable => exact .inl ⟨fun st h => by rw [← Option.some.inj h]; rfl, _, rfl⟩
      | stopped => exact .inl ⟨fun st h => by rw [← Option.some.inj h]; rfl, _, rfl⟩
      | starting => exact absurd hst (hs id)
      | running pid =>
          refine .inr ⟨.running pid, svc, r, svc', rfl, rfl, hsvc, hr, ?_⟩
          simp only [hsvc, hr]
          cases r with
          | ok u => rfl
          | error e => rw [statusOfStop, ← hset svc' _ hst]
      | failed reason =>
          refine .inr ⟨.failed reason, svc, r, svc', rfl, rfl, hsvc, hr, ?_⟩
          simp only [hsvc, hr]
          cases r with
          | ok u => rfl
          | error e => rw [statusOfStop, ← hset svc' _ hst]

/-- `handle_restart` is a stop that may have failed and then a start, or only a start. -/
theorem handleRestart_cases (sup : Supervisor σ) (id : ServiceId) (stopEnv startEnv : ω) :
    ((∀ pid, sup.statuses id ≠ some (.running pid)) ∧
        sup.handleRestart id stopEnv startEnv = sup.handleStart id startEnv) ∨
      (∃ pid, sup.statuses id = some (.running pid)) ∧
        sup.handleRestart id stopEnv startEnv =
          ⟨((sup.handleStop id stopEnv).sup.handleStart id startEnv).result,
            ((sup.handleStop id stopEnv).sup.handleStart id startEnv).sup,
            (sup.handleStop id stopEnv).calls ++
              ((sup.handleStop id stopEnv).sup.handleStart id startEnv).calls⟩ := by
  rw [Supervisor.handleRestart]
  cases hst : sup.statuses id with
  | none => exact .inl ⟨fun _ h => (nomatch h), rfl⟩
  | some st =>
      cases st with
      | running pid => exact .inr ⟨⟨pid, rfl⟩, rfl⟩
      | unavailable => exact .inl ⟨fun _ h => (nomatch h), rfl⟩
      | stopped => exact .inl ⟨fun _ h => (nomatch h), rfl⟩
      | starting => exact .inl ⟨fun _ h => (nomatch h), rfl⟩
      | failed e => exact .inl ⟨fun _ h => (nomatch h), rfl⟩

-- ── Invariants of the supervisor ─────────────────────────────────────────────

/-- A relation between every service and its status. -/
def Supervisor.Each (sup : Supervisor σ) (P : ServiceId → σ → ServiceStatus → Prop) : Prop :=
  ∀ id svc st, sup.services id = some svc → sup.statuses id = some st → P id svc st

variable {P : ServiceId → σ → ServiceStatus → Prop}

theorem Supervisor.Each.set (h : sup.Each P) {id : ServiceId} {svc : σ} {st : ServiceStatus}
    (hP : P id svc st) : (sup.set id svc st).Each P := by
  intro id' svc' st' hsvc hst
  by_cases hid : id' = id
  · subst hid
    simp only [Supervisor.set, Function.update_self, Option.some.injEq] at hsvc hst
    rw [← hsvc, ← hst]
    exact hP
  · simp only [Supervisor.set, Function.update_of_ne hid] at hsvc hst
    exact h id' svc' st' hsvc hst

/-- What the commands keep: the keys agree, nothing is `Starting`, and `P` relates every service
    to its status. -/
structure Supervisor.Keeps (P : ServiceId → σ → ServiceStatus → Prop) (sup : Supervisor σ) :
    Prop where
  same_keys      : sup.SameKeys
  never_starting : NeverStarting sup.statuses
  each           : sup.Each P

/-- Recording the outcome of a call. -/
theorem Supervisor.Keeps.set (h : sup.Keeps P) {id : ServiceId} {svc : σ} {st : ServiceStatus}
    (hP : P id svc st) (hst : st ≠ .starting) : (sup.set id svc st).Keeps P := by
  refine ⟨h.same_keys.set id svc st, ?_, h.each.set hP⟩
  intro id'
  by_cases hid : id' = id
  · subst hid
    simpa [Supervisor.set] using hst
  · simp only [Supervisor.set, Function.update_of_ne hid]
    exact h.never_starting id'

variable
  (start : ∀ id svc st env r svc', P id svc st → st.startable = true →
    ManagedService.start svc env = (r, svc') → P id svc' (statusOfStart r))
  (stop : ∀ id svc st env r svc', P id svc st → st.stoppable = true →
    ManagedService.stop svc env = (r, svc') → P id svc' (statusOfStop st r))

include start in
theorem Supervisor.Keeps.handleStart (h : sup.Keeps P) (id : ServiceId) (env : ω) :
    (sup.handleStart id env).sup.Keeps P := by
  rcases handleStart_cases h.same_keys id env with
    ⟨-, e, heq⟩ | ⟨st, svc, r, svc', hst, hable, hsvc, hr, heq⟩
  · rw [heq]; exact h
  · rw [heq]
    refine h.set (start id svc st env r svc' (h.each id svc st hsvc hst) hable hr) ?_
    cases r <;> simp [statusOfStart]

include stop in
theorem Supervisor.Keeps.handleStop (h : sup.Keeps P) (id : ServiceId) (env : ω) :
    (sup.handleStop id env).sup.Keeps P := by
  rcases handleStop_cases h.same_keys h.never_starting id env with
    ⟨-, e, heq⟩ | ⟨st, svc, r, svc', hst, hable, hsvc, hr, heq⟩
  · rw [heq]; exact h
  · rw [heq]
    refine h.set (stop id svc st env r svc' (h.each id svc st hsvc hst) hable hr) ?_
    cases r with
    | ok u => simp [statusOfStop]
    | error e => exact fun heq => h.never_starting id (heq ▸ hst)

include start stop in
/-- **The invariant rule of the supervisor.** What `start()` keeps of a startable service and
    `stop()` of a stoppable one holds of every service after any sequence of commands. -/
theorem Supervisor.Keeps.serveAll (h : sup.Keeps P) (cmds : List (Command ω)) :
    (serveAll sup cmds).sup.Keeps P := by
  induction cmds using List.reverseRecOn with
  | nil => exact h
  | append_singleton cmds cmd ih =>
      rw [serveAll_concat]
      cases cmd with
      | start id env => exact ih.handleStart start id env
      | stop id env => exact ih.handleStop stop id env
      | restart id stopEnv startEnv =>
          show (Supervisor.handleRestart _ id stopEnv startEnv).sup.Keeps P
          rcases handleRestart_cases (HamletSupervisor.serveAll sup cmds).sup id stopEnv startEnv
            with ⟨-, heq⟩ | ⟨-, heq⟩
          · rw [heq]; exact ih.handleStart start id startEnv
          · rw [heq]; exact (ih.handleStop stop id stopEnv).handleStart start id startEnv
      | status => exact ih

end Handlers

-- ── The code runs the specification ──────────────────────────────────────────

section Refinement

variable [ManagedService σ ω] {sup : Supervisor σ}

theorem handleStart_refines (hk : sup.SameKeys) (id : ServiceId) (env : ω) :
    run invoke sup.statuses (sup.handleStart id env).calls =
      some (sup.handleStart id env).sup.statuses := by
  rcases handleStart_cases hk id env with ⟨-, e, heq⟩ | ⟨st, svc, r, svc', hst, hable, -, -, heq⟩
  · rw [heq]; rfl
  · rw [heq]
    have hinv : invoke sup.statuses ⟨id, .start r⟩ =
        some (sup.set id svc' (statusOfStart r)).statuses :=
      invoke_eq_some.mpr ⟨st, _, hst, after_start_eq_some.mpr ⟨hable, rfl⟩, rfl⟩
    exact (run_singleton ..).trans hinv

theorem handleStop_refines (hk : sup.SameKeys) (hs : NeverStarting sup.statuses) (id : ServiceId)
    (env : ω) :
    run invoke sup.statuses (sup.handleStop id env).calls =
      some (sup.handleStop id env).sup.statuses := by
  rcases handleStop_cases hk hs id env with ⟨-, e, heq⟩ | ⟨st, svc, r, svc', hst, hable, -, -, heq⟩
  · rw [heq]; rfl
  · rw [heq]
    have hinv : invoke sup.statuses ⟨id, .stop r⟩ =
        some (sup.set id svc' (statusOfStop st r)).statuses :=
      invoke_eq_some.mpr ⟨st, _, hst, after_stop_eq_some.mpr ⟨hable, rfl⟩, rfl⟩
    exact (run_singleton ..).trans hinv

/-- **Refinement.** The calls of a run of the supervisor are a run of the specification, from the
    statuses at `spawn` to those it reports. -/
theorem serve_refines (h : sup.Keeps fun _ _ _ => True) (cmds : List (Command ω)) :
    run invoke sup.statuses (serveAll sup cmds).calls =
      some (serveAll sup cmds).sup.statuses := by
  induction cmds using List.reverseRecOn with
  | nil => rfl
  | append_singleton cmds cmd ih =>
      have hk := h.serveAll (fun _ _ _ _ _ _ _ _ _ => trivial) (fun _ _ _ _ _ _ _ _ _ => trivial)
        cmds
      have hextend : ∀ out : Handled σ,
          run invoke (serveAll sup cmds).sup.statuses out.calls = some out.sup.statuses →
          run invoke sup.statuses ((serveAll sup cmds).extend out).calls =
            some ((serveAll sup cmds).extend out).sup.statuses :=
        fun out hout => run_append_eq_some.mpr ⟨_, ih, hout⟩
      rw [serveAll_concat]
      cases cmd with
      | start id env => exact hextend _ (handleStart_refines hk.same_keys id env)
      | stop id env => exact hextend _ (handleStop_refines hk.same_keys hk.never_starting id env)
      | restart id stopEnv startEnv =>
          refine hextend _ ?_
          rcases handleRestart_cases (serveAll sup cmds).sup id stopEnv startEnv with
            ⟨-, heq⟩ | ⟨-, heq⟩
          · rw [heq]
            exact handleStart_refines hk.same_keys id startEnv
          · rw [heq]
            have hstopped := hk.handleStop (fun _ _ _ _ _ _ _ _ _ => trivial) id stopEnv
            exact run_append_eq_some.mpr
              ⟨_, handleStop_refines hk.same_keys hk.never_starting id stopEnv,
                handleStart_refines hstopped.same_keys id startEnv⟩
      | status => exact ih

end Refinement

-- ── What a command is answered ───────────────────────────────────────────────

/-- A start is refused without a call, or calls `start()` once and returns what it returned. -/
def StartAnswers (st : Option ServiceStatus) (id : ServiceId) (made : List Call)
    (result : Except String Unit) : Prop :=
  if st.any ServiceStatus.startable then
    ∃ r, made = [⟨id, .start r⟩] ∧ result = r.map fun _ => ()
  else made = [] ∧ ∃ e, result = .error e

/-- A stop, likewise. -/
def StopAnswers (st : Option ServiceStatus) (id : ServiceId) (made : List Call)
    (result : Except String Unit) : Prop :=
  if st.any ServiceStatus.stoppable then made = [⟨id, .stop result⟩]
  else made = [] ∧ ∃ e, result = .error e

/-- A restart is a start, before which a running service is stopped, with or without success. -/
def RestartAnswers (st : Option ServiceStatus) (id : ServiceId) (made : List Call)
    (result : Except String Unit) : Prop :=
  match st with
  | some (.running pid) => ∃ r rest, made = ⟨id, .stop r⟩ :: rest ∧
      StartAnswers (some (statusOfStop (.running pid) r)) id rest result
  | _ => StartAnswers st id made result

/-- The calls that a command makes and the reply it gets, by the statuses that it finds. -/
def Answers (sts : ServiceId → Option ServiceStatus) (cmd : Command ω) (made : List Call)
    (reply : Reply) : Prop :=
  match cmd with
  | .start id _ => ∃ result, reply = .done result ∧ StartAnswers (sts id) id made result
  | .stop id _ => ∃ result, reply = .done result ∧ StopAnswers (sts id) id made result
  | .restart id _ _ => ∃ result, reply = .done result ∧ RestartAnswers (sts id) id made result
  | .status => made = [] ∧ reply = .statuses sts

section Answers

variable [ManagedService σ ω] {sup : Supervisor σ}

theorem handleStart_answers (hk : sup.SameKeys) (id : ServiceId) (env : ω) :
    StartAnswers (sup.statuses id) id (sup.handleStart id env).calls
      (sup.handleStart id env).result := by
  rcases handleStart_cases hk id env with
    ⟨hrefused, e, heq⟩ | ⟨st, svc, r, svc', hst, hable, -, -, heq⟩
  · have hany : (sup.statuses id).any ServiceStatus.startable = false := by
      cases hst : sup.statuses id with
      | none => rfl
      | some st => exact hrefused st hst
    rw [heq, StartAnswers, hany]
    exact ⟨rfl, e, rfl⟩
  · rw [heq, hst, StartAnswers, Option.any_some, hable]
    exact ⟨r, rfl, rfl⟩

theorem handleStop_answers (hk : sup.SameKeys) (hs : NeverStarting sup.statuses) (id : ServiceId)
    (env : ω) :
    StopAnswers (sup.statuses id) id (sup.handleStop id env).calls
      (sup.handleStop id env).result := by
  rcases handleStop_cases hk hs id env with
    ⟨hrefused, e, heq⟩ | ⟨st, svc, r, svc', hst, hable, -, -, heq⟩
  · have hany : (sup.statuses id).any ServiceStatus.stoppable = false := by
      cases hst : sup.statuses id with
      | none => rfl
      | some st => exact hrefused st hst
    rw [heq, StopAnswers, hany]
    exact ⟨rfl, e, rfl⟩
  · rw [heq, hst, StopAnswers, Option.any_some, hable]
    rfl

theorem handleRestart_answers (h : sup.Keeps fun _ _ _ => True) (id : ServiceId)
    (stopEnv startEnv : ω) :
    RestartAnswers (sup.statuses id) id (sup.handleRestart id stopEnv startEnv).calls
      (sup.handleRestart id stopEnv startEnv).result := by
  rcases handleRestart_cases sup id stopEnv startEnv with ⟨hidle, heq⟩ | ⟨⟨pid, hst⟩, heq⟩
  · have hstart := handleStart_answers h.same_keys id startEnv
    rw [heq, RestartAnswers]
    · exact hstart
    · exact hidle
  · have hstopped := h.handleStop (fun _ _ _ _ _ _ _ _ _ => trivial) id stopEnv
    have hstart := handleStart_answers hstopped.same_keys id startEnv
    rcases handleStop_cases h.same_keys h.never_starting id stopEnv with
      ⟨hrefused, -⟩ | ⟨st, svc, r, svc', hst', -, -, -, hstop⟩
    · exact nomatch hrefused _ hst
    · obtain rfl := Option.some.inj (hst.symm.trans hst')
      rw [hstop, Supervisor.set_statuses_self] at hstart
      rw [heq, hst, hstop]
      exact ⟨r, _, rfl, hstart⟩

theorem serve_answers (s : Served σ) (h : s.sup.Keeps fun _ _ _ => True) (cmd : Command ω) :
    ∃ made reply, (serve s cmd).calls = s.calls ++ made ∧
      (serve s cmd).replies = s.replies ++ [reply] ∧ Answers s.sup.statuses cmd made reply := by
  cases cmd with
  | start id env => exact ⟨_, _, rfl, rfl, _, rfl, handleStart_answers h.same_keys id env⟩
  | stop id env =>
      exact ⟨_, _, rfl, rfl, _, rfl, handleStop_answers h.same_keys h.never_starting id env⟩
  | restart id stopEnv startEnv =>
      exact ⟨_, _, rfl, rfl, _, rfl, handleRestart_answers h id stopEnv startEnv⟩
  | status => exact ⟨[], _, (List.append_nil _).symm, rfl, rfl, rfl⟩

/-- Every further command adds one reply. -/
theorem replies_append (sup : Supervisor σ) (cmds more : List (Command ω)) :
    ∃ rest, (serveAll sup (cmds ++ more)).replies = (serveAll sup cmds).replies ++ rest ∧
      rest.length = more.length := by
  induction more using List.reverseRecOn with
  | nil => exact ⟨[], by rw [List.append_nil, List.append_nil], rfl⟩
  | append_singleton more cmd ih =>
      obtain ⟨rest, hrest, hlen⟩ := ih
      have hone : ∃ reply, (serve (serveAll sup (cmds ++ more)) cmd).replies =
          (serveAll sup (cmds ++ more)).replies ++ [reply] := by
        cases cmd <;> exact ⟨_, rfl⟩
      obtain ⟨reply, hreply⟩ := hone
      refine ⟨rest ++ [reply], ?_, by simp [hlen]⟩
      rw [← List.append_assoc, serveAll_concat, hreply, hrest, List.append_assoc]

/-- Every command is answered. -/
theorem length_replies (sup : Supervisor σ) (cmds : List (Command ω)) :
    (serveAll sup cmds).replies.length = cmds.length := by
  obtain ⟨rest, hrest, hlen⟩ := replies_append sup [] cmds
  have hall : (serveAll sup cmds).replies = rest := hrest
  rw [hall, hlen]

end Answers

/-- Every command has its reply, at its place, and each says what was called for the command; the
    reply to a `Status` is the map of the statuses. -/
structure AnswersEach [ManagedService σ ω] (sup : Supervisor σ) (cmds : List (Command ω)) :
    Prop where
  one_each : (serveAll sup cmds).replies.length = cmds.length
  each     : ∀ p cmd q, cmds = p ++ cmd :: q → ∃ made reply,
    (serveAll sup (p ++ [cmd])).calls = (serveAll sup p).calls ++ made ∧
      (serveAll sup cmds).replies[p.length]? = some reply ∧
      Answers (serveAll sup p).sup.statuses cmd made reply

theorem answersEach [ManagedService σ ω] {sup : Supervisor σ}
    (h : sup.Keeps fun _ _ _ => True) (cmds : List (Command ω)) : AnswersEach sup cmds where
  one_each := length_replies sup cmds
  each := by
    rintro p cmd q rfl
    have hk := h.serveAll (fun _ _ _ _ _ _ _ _ _ => trivial) (fun _ _ _ _ _ _ _ _ _ => trivial) p
    obtain ⟨made, reply, hcalls, hreply, hanswers⟩ := serve_answers (serveAll sup p) hk cmd
    rw [← serveAll_concat] at hcalls hreply
    refine ⟨made, reply, hcalls, ?_, hanswers⟩
    obtain ⟨rest, hrest, -⟩ := replies_append sup (p ++ [cmd]) q
    rw [List.append_assoc, List.singleton_append] at hrest
    rw [hrest, hreply, List.append_assoc, ← length_replies sup p,
      List.getElem?_append_right (Nat.le_refl _), Nat.sub_self]
    rfl

-- ── Statuses as a function of the history ────────────────────────────────────

/-- The call ends what an earlier `start()` of the service established: it is another `start()`,
    or a `stop()` that returned `Ok`. -/
def Call.supersedes (c : Call) (id : ServiceId) : Prop :=
  c.service = id ∧ ∀ e, c.result ≠ .stop (.error e)

/-- The last `start()` invoked on a service returned `r`, and no `stop()` has returned `Ok`
    since. -/
def SinceStart (calls : List Call) (id : ServiceId) (r : Except String ℕ) : Prop :=
  ∃ p q, calls = p ++ ⟨id, .start r⟩ :: q ∧ ∀ c ∈ q, ¬ c.supersedes id

theorem sinceStart_iff {calls : List Call} {id : ServiceId} {r : Except String ℕ} :
    SinceStart calls id r ↔ History.Since (· = ⟨id, .start r⟩) (·.supersedes id) calls := by
  constructor
  · rintro ⟨p, q, hcalls, hq⟩
    exact ⟨p, ⟨id, .start r⟩, q, hcalls, rfl, hq⟩
  · rintro ⟨p, _, q, hcalls, rfl, hq⟩
    exact ⟨p, q, hcalls, hq⟩

/-- One more call. -/
theorem sinceStart_concat {calls : List Call} {c : Call} {id : ServiceId} {r : Except String ℕ} :
    SinceStart (calls ++ [c]) id r ↔
      c = ⟨id, .start r⟩ ∨ SinceStart calls id r ∧ ¬ c.supersedes id := by
  rw [sinceStart_iff, sinceStart_iff, History.since_concat]

/-- The status that a history of calls gives to a service that was available at `spawn`. -/
def HistoryStatus (calls : List Call) (id : ServiceId) (st : Option ServiceStatus) : Prop :=
  (∀ pid, st = some (.running pid) ↔ SinceStart calls id (.ok pid)) ∧
    (∀ e, st = some (.failed e) ↔ SinceStart calls id (.error e)) ∧
    (st = some .stopped ↔ ∀ r, ¬ SinceStart calls id r)

theorem HistoryStatus.congr {calls calls' : List Call} {id : ServiceId} {st : Option ServiceStatus}
    (h : HistoryStatus calls id st)
    (hsame : ∀ r, SinceStart calls' id r ↔ SinceStart calls id r) : HistoryStatus calls' id st := by
  simp only [HistoryStatus, hsame]
  exact h

theorem historyStatus_started {calls : List Call} {id : ServiceId} {r : Except String ℕ}
    (h : ∀ r', SinceStart calls id r' ↔ r' = r) :
    HistoryStatus calls id (some (statusOfStart r)) := by
  simp only [HistoryStatus, h]
  cases r with
  | ok pid => simp [statusOfStart, eq_comm]
  | error e => simp [statusOfStart, eq_comm]

theorem historyStatus_stopped {calls : List Call} {id : ServiceId}
    (h : ∀ r, ¬ SinceStart calls id r) : HistoryStatus calls id (some .stopped) := by
  simp [HistoryStatus, h]

/-- The other services keep their status. -/
theorem invoke_of_ne {sts sts' : ServiceId → Option ServiceStatus} {c : Call} {id : ServiceId}
    (hc : invoke sts c = some sts') (hid : id ≠ c.service) : sts' id = sts id := by
  obtain ⟨st, st', -, -, rfl⟩ := invoke_eq_some.mp hc
  exact Function.update_of_ne hid ..

/-- One call keeps the status of every service a function of the history. -/
theorem historyStatus_invoke {calls : List Call} {sts sts' : ServiceId → Option ServiceStatus}
    {c : Call} {id : ServiceId} (h : HistoryStatus calls id (sts id))
    (hc : invoke sts c = some sts') : HistoryStatus (calls ++ [c]) id (sts' id) := by
  by_cases hid : id = c.service
  · obtain ⟨id', result⟩ := c
    subst hid
    obtain ⟨st, st', hst, hafter, rfl⟩ := invoke_eq_some.mp hc
    rw [Function.update_self]
    cases result with
    | start r =>
        obtain ⟨-, rfl⟩ := after_start_eq_some.mp hafter
        refine historyStatus_started fun r' => ?_
        rw [sinceStart_concat]
        constructor
        · rintro (heq | ⟨-, hno⟩)
          · simpa using heq.symm
          · exact absurd ⟨rfl, fun e he => nomatch he⟩ hno
        · rintro rfl
          exact .inl rfl
    | stop r =>
        obtain ⟨-, rfl⟩ := after_stop_eq_some.mp hafter
        cases r with
        | ok u =>
            refine historyStatus_stopped fun r hr => ?_
            rcases sinceStart_concat.mp hr with heq | ⟨-, hno⟩
            · exact nomatch heq
            · exact hno ⟨rfl, fun e he => nomatch he⟩
        | error e =>
            -- a stop that failed supersedes nothing
            rw [statusOfStop, ← hst]
            refine h.congr fun r => ?_
            rw [sinceStart_concat]
            constructor
            · rintro (heq | ⟨hr, -⟩)
              · exact nomatch heq
              · exact hr
            · exact fun hr => .inr ⟨hr, fun hsup => hsup.2 e rfl⟩
  · rw [invoke_of_ne hc hid]
    refine h.congr fun r => ?_
    rw [sinceStart_concat]
    constructor
    · rintro (rfl | ⟨hr, -⟩)
      · exact absurd rfl hid
      · exact hr
    · exact fun hr => .inr ⟨hr, fun hsup => hid hsup.1.symm⟩

section Runs

variable {sts sts' : ServiceId → Option ServiceStatus} {calls : List Call} {id : ServiceId}

theorem historyStatus_run (hrun : run invoke sts calls = some sts')
    (hinit : sts id = some .stopped) : HistoryStatus calls id (sts' id) := by
  refine run_induction (P := fun calls sts' => HistoryStatus calls id (sts' id)) ?_
    (fun _ _ _ _ _ ih hc => historyStatus_invoke ih hc) calls sts' hrun
  rw [hinit]
  refine historyStatus_stopped ?_
  rintro r ⟨p, q, hcalls, -⟩
  simp at hcalls

/-- No call adds or removes a key. -/
theorem isSome_run (hrun : run invoke sts calls = some sts') :
    (sts' id).isSome = (sts id).isSome := by
  refine run_induction (P := fun _ sts' => (sts' id).isSome = (sts id).isSome) rfl ?_ calls sts'
    hrun
  rintro calls c mid sts' - hmid hc
  by_cases hid : id = c.service
  · obtain ⟨st, st', hst, -, rfl⟩ := invoke_eq_some.mp hc
    rw [← hmid, hid, hst, Function.update_self]; rfl
  · rw [invoke_of_ne hc hid]; exact hmid

/-- A service without a status, or `Unavailable`, keeps that, and nothing is called on it. -/
theorem untouched_run (hrun : run invoke sts calls = some sts')
    (hinit : sts id = none ∨ sts id = some .unavailable) :
    sts' id = sts id ∧ ∀ c ∈ calls, c.service ≠ id := by
  refine run_induction (P := fun calls sts' => sts' id = sts id ∧ ∀ c ∈ calls, c.service ≠ id)
    ⟨rfl, fun c hc => nomatch hc⟩ ?_ calls sts' hrun
  rintro calls c mid sts' - ⟨hmid, hcalls⟩ hc
  have hid : id ≠ c.service := by
    rintro rfl
    obtain ⟨st, st', hst, hafter, -⟩ := invoke_eq_some.mp hc
    have hne := (after_settled hafter).1.1
    rw [hst] at hmid
    rcases hinit with h | h <;> rw [h] at hmid
    · exact nomatch hmid
    · exact hne (Option.some.inj hmid)
  refine ⟨(invoke_of_ne hc hid).trans hmid, ?_⟩
  intro d hd
  rcases List.mem_append.mp hd with hd | hd
  · exact hcalls d hd
  · rw [List.mem_singleton.mp hd]; exact Ne.symm hid

/-- After a `start()` that returned `Ok` the service is running until a `stop()` returns `Ok`. -/
theorem running_until_stop {pid : ℕ} {p q : List Call}
    (hrun : run invoke sts (p ++ ⟨id, .start (.ok pid)⟩ :: q) = some sts') :
    ⟨id, .stop (.ok ())⟩ ∈ q ∨ sts' id = some (.running pid) := by
  obtain ⟨mid, -, hrun⟩ := run_append_eq_some.mp hrun
  obtain ⟨start, hstart, hrun⟩ := Option.bind_eq_some_iff.mp hrun
  refine run_induction (P := fun q (sts' : ServiceId → Option ServiceStatus) =>
    ⟨id, .stop (.ok ())⟩ ∈ q ∨ sts' id = some (.running pid)) ?_ ?_ q sts' hrun
  · obtain ⟨st, st', -, hafter, rfl⟩ := invoke_eq_some.mp hstart
    rw [(after_start_eq_some.mp hafter).2]
    exact .inr (Function.update_self ..)
  · rintro q c t u - ih hc
    rcases ih with hmem | ht
    · exact .inl (List.mem_append_left _ hmem)
    · by_cases hid : id = c.service
      · obtain ⟨id', result⟩ := c
        subst hid
        obtain ⟨st, st', hst, hafter, rfl⟩ := invoke_eq_some.mp hc
        obtain rfl : .running pid = st := Option.some.inj (ht.symm.trans hst)
        cases result with
        | start r =>
            -- a running service is not started
            exact Bool.noConfusion (after_start_eq_some.mp hafter).1
        | stop r =>
            cases r with
            | ok u => exact .inl (List.mem_append_right _ List.mem_cons_self)
            | error e =>
                rw [(after_stop_eq_some.mp hafter).2]
                exact .inr (Function.update_self ..)
      · exact .inr ((invoke_of_ne hc hid).trans ht)

/-- Two starts that returned `Ok` have a stop that returned `Ok` between them. -/
theorem no_double_start {pid pid' : ℕ} {p q r : List Call}
    (hrun : run invoke sts (p ++ ⟨id, .start (.ok pid)⟩ :: q ++ ⟨id, .start (.ok pid')⟩ :: r) =
      some sts') : ⟨id, .stop (.ok ())⟩ ∈ q := by
  obtain ⟨mid, hmid, hrun⟩ := run_append_eq_some.mp hrun
  obtain ⟨next, hnext, -⟩ := Option.bind_eq_some_iff.mp hrun
  rcases running_until_stop hmid with hmem | hst
  · exact hmem
  · obtain ⟨st, st', hst', hafter, -⟩ := invoke_eq_some.mp hnext
    obtain rfl : .running pid = st := Option.some.inj (hst.symm.trans hst')
    exact Bool.noConfusion (after_start_eq_some.mp hafter).1

end Runs

-- ── Registration ─────────────────────────────────────────────────────────────

/-- The status a registration begins with. -/
def Registration.initial (r : Registration σ) : ServiceStatus :=
  if r.available then .stopped else .unavailable

/-- After the registrations, every id has the service and the initial status of its last one. -/
theorem registerAll_lookup (regs : List (Registration σ)) (id : ServiceId) :
    (registerAll regs).statuses id = (lastRegistration regs id).map Registration.initial ∧
      (registerAll regs).services id = (lastRegistration regs id).map Registration.service := by
  induction regs using List.reverseRecOn with
  | nil => exact ⟨rfl, rfl⟩
  | append_singleton regs r ih =>
      have hreg : registerAll (regs ++ [r]) =
          (registerAll regs).register r.id r.service r.available := by
        rw [registerAll, List.foldl_append]; rfl
      have hlast : lastRegistration (regs ++ [r]) id =
          if r.id = id then some r else lastRegistration regs id := by
        by_cases h : r.id = id
        · simp [lastRegistration, h]
        · simp [lastRegistration, h]
      rw [hreg, hlast]
      by_cases h : r.id = id
      · subst h
        simp [Supervisor.register, Supervisor.setStatus, Supervisor.setService,
          Registration.initial]
      · have hne : id ≠ r.id := Ne.symm h
        simp [Supervisor.register, Supervisor.setStatus, Supervisor.setService, h,
          Function.update_of_ne hne, ih]

/-- What holds of the last registration of every id holds at `spawn`. -/
theorem registerAll_keeps {P : ServiceId → σ → ServiceStatus → Prop} (regs : List (Registration σ))
    (h : ∀ id r, lastRegistration regs id = some r → P id r.service r.initial) :
    (registerAll regs).Keeps P := by
  refine ⟨?_, ?_, ?_⟩
  · intro id
    obtain ⟨hst, hsvc⟩ := registerAll_lookup regs id
    rw [hst, hsvc, Option.isSome_map, Option.isSome_map]
  · intro id hst
    rw [(registerAll_lookup regs id).1] at hst
    obtain ⟨r, -, hr⟩ := Option.map_eq_some_iff.mp hst
    rw [Registration.initial] at hr
    split at hr <;> exact nomatch hr
  · intro id svc st hsvc hst
    rw [(registerAll_lookup regs id).2] at hsvc
    rw [(registerAll_lookup regs id).1] at hst
    obtain ⟨r, hr, rfl⟩ := Option.map_eq_some_iff.mp hsvc
    rw [hr] at hst
    rw [← Option.some.inj hst]
    exact h id r hr

-- ── The supervisor refines its history ───────────────────────────────────────

/-- What the statuses and the calls of a run say about each other. -/
structure RefinesHistory (regs : List (Registration σ)) (s : Served σ) : Prop where
  same_keys       : ∀ id, (s.sup.statuses id).isSome = (s.sup.services id).isSome
  registered      : ∀ id, (s.sup.statuses id).isSome = (lastRegistration regs id).isSome
  never_starting  : ∀ id, s.sup.statuses id ≠ some .starting
  unavailable     : ∀ id r, lastRegistration regs id = some r → r.available = false →
    s.sup.statuses id = some .unavailable ∧ ∀ c ∈ s.calls, c.service ≠ id
  running_iff     : ∀ id r, lastRegistration regs id = some r → r.available = true →
    ∀ pid, s.sup.statuses id = some (.running pid) ↔ SinceStart s.calls id (.ok pid)
  failed_iff      : ∀ id r, lastRegistration regs id = some r → r.available = true →
    ∀ e, s.sup.statuses id = some (.failed e) ↔ SinceStart s.calls id (.error e)
  stopped_iff     : ∀ id r, lastRegistration regs id = some r → r.available = true →
    (s.sup.statuses id = some .stopped ↔ ∀ res, ¬ SinceStart s.calls id res)
  no_double_start : ∀ id pid pid' p q r,
    s.calls = p ++ ⟨id, .start (.ok pid)⟩ :: q ++ ⟨id, .start (.ok pid')⟩ :: r →
      ⟨id, .stop (.ok ())⟩ ∈ q

/-- **The supervisor refines its history**: for every list of registrations, every sequence of
    commands and every outcome of the services' own calls. What the statuses are is said by the
    calls that were made; what calls are made, and what is reported, by the commands. -/
theorem supervisor_refines_history [ManagedService σ ω] (regs : List (Registration σ))
    (cmds : List (Command ω)) :
    RefinesHistory regs (serveAll (registerAll regs) cmds) ∧
      AnswersEach (registerAll regs) cmds := by
  have h0 : (registerAll regs).Keeps fun _ _ _ => True :=
    registerAll_keeps regs fun _ _ _ => trivial
  have hk := h0.serveAll (fun _ _ _ _ _ _ _ _ _ => trivial) (fun _ _ _ _ _ _ _ _ _ => trivial) cmds
  have hrun := serve_refines h0 cmds
  have hlast := fun id => (registerAll_lookup regs id).1
  -- an available service starts out `Stopped`, so its status is that of the history
  have hhist : ∀ id r, lastRegistration regs id = some r → r.available = true →
      HistoryStatus (serveAll (registerAll regs) cmds).calls id
        ((serveAll (registerAll regs) cmds).sup.statuses id) := by
    intro id r hr hav
    refine historyStatus_run hrun ?_
    rw [hlast, hr, Option.map_some, Registration.initial, if_pos hav]
  refine ⟨⟨hk.same_keys, ?_, hk.never_starting, ?_, fun id r hr hav => (hhist id r hr hav).1,
    fun id r hr hav => (hhist id r hr hav).2.1, fun id r hr hav => (hhist id r hr hav).2.2, ?_⟩,
    answersEach h0 cmds⟩
  · intro id
    rw [isSome_run hrun, hlast, Option.isSome_map]
  · intro id r hr hav
    have hun : (registerAll regs).statuses id = some .unavailable := by
      rw [hlast, hr, Option.map_some, Registration.initial, hav]; rfl
    obtain ⟨hst, hcalls⟩ := untouched_run hrun (.inr hun)
    exact ⟨hst.trans hun, hcalls⟩
  · intro id pid pid' p q r hcalls
    rw [hcalls] at hrun
    exact no_double_start hrun

end HamletSupervisor
