import Hamlet.Lib.NoninterferenceProofs
import Hamlet.ServiceProofs

/-!
# Commands to different services do not interact

Clients of the supervisor share ONE command channel, so the order in which the supervisor sees the
commands of different clients is up to the scheduler. This file shows that the order does not
matter across services.

What a handler reads and writes is the slot of its own service: the entry of `services` and the
entry of `statuses` under that id. Two lemmas per handler say so — a frame lemma for the other
slots, and a congruence lemma for its own — and make the supervisor loop an instance of
`Noninterference.Independent`. A `Status` command belongs to no service: it may stand anywhere
between the others and changes nothing.
-/

namespace HamletInterleaving

open HamletSupervisor HamletService Noninterference

variable {σ ω : Type}

/-- The service a command is about. -/
def service : Command ω → Option ServiceId
  | .start id _ => some id
  | .stop id _ => some id
  | .restart id _ _ => some id
  | .status => none

/-- The subsequence of the commands on one service. -/
def commandsOn (id : ServiceId) (cmds : List (Command ω)) : List (Command ω) :=
  purge service id cmds

/-- The commands on one service, each with the reply it received. -/
def repliesOn (id : ServiceId) (cmds : List (Command ω)) (replies : List Reply) :
    List (Command ω × Reply) :=
  answersTo service id (cmds.zip replies)

-- ── The slot of a service ────────────────────────────────────────────────────

/-- What the supervisor holds under one id. -/
def slot (id : ServiceId) (sup : Supervisor σ) : Option σ × Option ServiceStatus :=
  (sup.services id, sup.statuses id)

theorem slot_eq_iff {id : ServiceId} {sup sup' : Supervisor σ} :
    slot id sup = slot id sup' ↔
      sup.services id = sup'.services id ∧ sup.statuses id = sup'.statuses id := by
  simp [slot]

theorem slot_setStatus_of_ne {id id' : ServiceId} (h : id' ≠ id) (sup : Supervisor σ)
    (st : ServiceStatus) : slot id' (sup.setStatus id st) = slot id' sup := by
  simp [slot, Supervisor.setStatus, Function.update_of_ne h]

theorem slot_setService_of_ne {id id' : ServiceId} (h : id' ≠ id) (sup : Supervisor σ)
    (svc : σ) : slot id' (sup.setService id svc) = slot id' sup := by
  simp [slot, Supervisor.setService, Function.update_of_ne h]

theorem slot_setStatus_self (id : ServiceId) (sup : Supervisor σ) (st : ServiceStatus) :
    slot id (sup.setStatus id st) = (sup.services id, some st) := by
  simp [slot, Supervisor.setStatus]

theorem slot_setService_self (id : ServiceId) (sup : Supervisor σ) (svc : σ) :
    slot id (sup.setService id svc) = (some svc, sup.statuses id) := by
  simp [slot, Supervisor.setService]

section Handlers

variable [ManagedService σ ω]

-- ── Frame: the other slots ───────────────────────────────────────────────────

theorem handleStart_frame {id id' : ServiceId} (h : id' ≠ id) (sup : Supervisor σ) (env : ω) :
    slot id' (sup.handleStart id env).sup = slot id' sup := by
  rw [Supervisor.handleStart]
  split
  · rfl
  · rfl
  · rfl
  · rfl
  all_goals
    dsimp only
    split
    · exact slot_setStatus_of_ne h ..
    · split <;> simp only [slot_setStatus_of_ne h, slot_setService_of_ne h]

theorem handleStop_frame {id id' : ServiceId} (h : id' ≠ id) (sup : Supervisor σ) (env : ω) :
    slot id' (sup.handleStop id env).sup = slot id' sup := by
  rw [Supervisor.handleStop]
  split
  · rfl
  · rfl
  all_goals
    split
    · rfl
    · split <;> simp only [slot_setStatus_of_ne h, slot_setService_of_ne h]

theorem handleRestart_frame {id id' : ServiceId} (h : id' ≠ id) (sup : Supervisor σ)
    (stopEnv startEnv : ω) :
    slot id' (sup.handleRestart id stopEnv startEnv).sup = slot id' sup := by
  rcases handleRestart_cases sup id stopEnv startEnv with ⟨-, heq⟩ | ⟨-, heq⟩
  · rw [heq]
    exact handleStart_frame h sup startEnv
  · rw [heq]
    calc slot id' ((sup.handleStop id stopEnv).sup.handleStart id startEnv).sup
        = slot id' (sup.handleStop id stopEnv).sup := handleStart_frame h _ startEnv
      _ = slot id' sup := handleStop_frame h sup stopEnv

-- ── Congruence: the slot of the service itself ───────────────────────────────

variable {sup sup' : Supervisor σ} {id : ServiceId}

/-- Two outcomes look the same to a service. -/
def SameOutcome (id : ServiceId) (h h' : Handled σ) : Prop :=
  slot id h.sup = slot id h'.sup ∧ h.result = h'.result

theorem handleStart_congr (hs : slot id sup = slot id sup') (env : ω) :
    SameOutcome id (sup.handleStart id env) (sup'.handleStart id env) := by
  obtain ⟨hsvc, hst⟩ := slot_eq_iff.mp hs
  have hsvc' : (sup.setStatus id .starting).services id =
      (sup'.setStatus id .starting).services id := hsvc
  rw [SameOutcome, Supervisor.handleStart, Supervisor.handleStart, hst]
  split
  · exact ⟨hs, rfl⟩
  · exact ⟨hs, rfl⟩
  · exact ⟨hs, rfl⟩
  · exact ⟨hs, rfl⟩
  all_goals
    dsimp only
    rw [hsvc']
    split
    · rw [slot_setStatus_self, slot_setStatus_self, hsvc]
      exact ⟨rfl, rfl⟩
    · split
      · simp [slot_setStatus_self, Supervisor.setService]
      · simp [slot_setStatus_self, Supervisor.setService]

theorem handleStop_congr (hs : slot id sup = slot id sup') (env : ω) :
    SameOutcome id (sup.handleStop id env) (sup'.handleStop id env) := by
  obtain ⟨hsvc, hst⟩ := slot_eq_iff.mp hs
  rw [SameOutcome, Supervisor.handleStop, Supervisor.handleStop, hst]
  split
  · exact ⟨hs, rfl⟩
  · exact ⟨hs, rfl⟩
  all_goals
    rw [hsvc]
    split
    · exact ⟨hs, rfl⟩
    · split
      · simp [slot_setStatus_self, Supervisor.setService]
      · simp [slot_setService_self, hst]

theorem handleRestart_congr (hs : slot id sup = slot id sup') (stopEnv startEnv : ω) :
    SameOutcome id (sup.handleRestart id stopEnv startEnv)
      (sup'.handleRestart id stopEnv startEnv) := by
  have hst := (slot_eq_iff.mp hs).2
  rcases handleRestart_cases sup id stopEnv startEnv with ⟨hno, heq⟩ | ⟨⟨pid, hrun⟩, heq⟩
  · rcases handleRestart_cases sup' id stopEnv startEnv with ⟨-, heq'⟩ | ⟨⟨pid, hrun'⟩, -⟩
    · rw [heq, heq']
      exact handleStart_congr hs startEnv
    · exact absurd (hst.trans hrun') (hno pid)
  · rcases handleRestart_cases sup' id stopEnv startEnv with ⟨hno', -⟩ | ⟨-, heq'⟩
    · exact absurd (hst.symm.trans hrun) (hno' pid)
    · -- the failed stop, if it failed, failed in both
      rw [heq, heq']
      exact handleStart_congr (handleStop_congr hs stopEnv).1 startEnv

-- ── The supervisor loop as a machine that answers ────────────────────────────

/-- One turn of the loop: the next state and the reply. -/
def turn (sup : Supervisor σ) : Command ω → Supervisor σ × Reply
  | .start id env => ((sup.handleStart id env).sup, .done (sup.handleStart id env).result)
  | .stop id env => ((sup.handleStop id env).sup, .done (sup.handleStop id env).result)
  | .restart id stopEnv startEnv =>
      ((sup.handleRestart id stopEnv startEnv).sup,
        .done (sup.handleRestart id stopEnv startEnv).result)
  | .status => (sup, .statuses sup.statuses)

theorem serve_turn (s : Served σ) (cmd : Command ω) :
    (serve s cmd).sup = (turn s.sup cmd).1 ∧
      (serve s cmd).replies = s.replies ++ [(turn s.sup cmd).2] := by
  cases cmd <;> exact ⟨rfl, rfl⟩

/-- The supervisor task is a run of `turn`. -/
theorem serveAll_exec (sup : Supervisor σ) (cmds : List (Command ω)) :
    (serveAll sup cmds).sup = (exec turn sup cmds).1 ∧
      (serveAll sup cmds).replies = (exec turn sup cmds).2.map Prod.snd := by
  have key : ∀ s : Served σ, (cmds.foldl serve s).sup = (exec turn s.sup cmds).1 ∧
      (cmds.foldl serve s).replies = s.replies ++ (exec turn s.sup cmds).2.map Prod.snd := by
    induction cmds with
    | nil => exact fun s => ⟨rfl, by simp [exec]⟩
    | cons cmd cmds ih =>
        intro s
        obtain ⟨hsup, hreplies⟩ := serve_turn s cmd
        obtain ⟨ihsup, ihreplies⟩ := ih (serve s cmd)
        rw [List.foldl_cons, ihsup, ihreplies, hsup, hreplies]
        exact ⟨rfl, by simp [exec]⟩
  exact key (.init sup)

theorem exec_commands (sup : Supervisor σ) (cmds : List (Command ω)) :
    (exec turn sup cmds).2.map Prod.fst = cmds := by
  induction cmds generalizing sup with
  | nil => rfl
  | cons cmd cmds ih => rw [exec, List.map_cons, ih]

/-- Every command is answered, in order. -/
theorem zip_replies (sup : Supervisor σ) (cmds : List (Command ω)) :
    cmds.zip (serveAll sup cmds).replies = (exec turn sup cmds).2 := by
  rw [(serveAll_exec sup cmds).2]
  exact (List.zip_of_prod (exec_commands sup cmds) rfl).symm

/-- The services of a supervisor are independent components of its loop. -/
theorem turn_independent : Independent (turn (σ := σ) (ω := ω)) service slot where
  frame := by
    intro sup cmd id hid
    cases cmd with
    | start id' env => exact handleStart_frame (fun h => hid (congrArg some h.symm)) sup env
    | stop id' env => exact handleStop_frame (fun h => hid (congrArg some h.symm)) sup env
    | restart id' stopEnv startEnv =>
        exact handleRestart_frame (fun h => hid (congrArg some h.symm)) sup stopEnv startEnv
    | status => rfl
  reads := by
    intro sup sup' cmd id hid hs
    have hdone : ∀ {h h' : Handled σ}, SameOutcome id h h' →
        slot id h.sup = slot id h'.sup ∧ Reply.done h.result = Reply.done h'.result :=
      fun hsame => ⟨hsame.1, congrArg Reply.done hsame.2⟩
    cases cmd with
    | start id' env =>
        obtain rfl : id' = id := Option.some.inj hid
        exact hdone (handleStart_congr hs env)
    | stop id' env =>
        obtain rfl : id' = id := Option.some.inj hid
        exact hdone (handleStop_congr hs env)
    | restart id' stopEnv startEnv =>
        obtain rfl : id' = id := Option.some.inj hid
        exact hdone (handleRestart_congr hs stopEnv startEnv)
    | status => exact nomatch hid

-- ── Interleavings ────────────────────────────────────────────────────────────

/-- **Interleavings of the clients' commands are indistinguishable.** Two command sequences that
    have the same commands on every service, sent to the same supervisor, leave every service with
    the same status and the same state, and every command on a service gets the same reply. -/
theorem interleavings_indistinguishable (sup : Supervisor σ) (cmds cmds' : List (Command ω))
    (hsame : ∀ id, commandsOn id cmds = commandsOn id cmds') :
    (∀ id, (serveAll sup cmds).sup.statuses id = (serveAll sup cmds').sup.statuses id ∧
        (serveAll sup cmds).sup.services id = (serveAll sup cmds').sup.services id ∧
        repliesOn id cmds (serveAll sup cmds).replies =
          repliesOn id cmds' (serveAll sup cmds').replies) ∧
      (serveAll sup cmds).replies.length = cmds.length ∧
      (serveAll sup cmds').replies.length = cmds'.length := by
  refine ⟨?_, length_replies sup cmds, length_replies sup cmds'⟩
  intro id
  obtain ⟨hslot, hanswers⟩ := exec_agree turn_independent id sup (hsame id)
  rw [← (serveAll_exec sup cmds).1, ← (serveAll_exec sup cmds').1] at hslot
  obtain ⟨hsvc, hst⟩ := slot_eq_iff.mp hslot
  refine ⟨hst, hsvc, ?_⟩
  rw [repliesOn, repliesOn, zip_replies, zip_replies]
  exact hanswers

end Handlers

/-- The gateway and the broker, registered and available. -/
def gatewayAndBroker : Supervisor AnyService :=
  registerAll
    [⟨.gateway, defaultHttp.build, true⟩,
      ⟨.mosquitto, .mosquitto (.new (.fromEnv (fun _ => none) "/etc/hamlet")), true⟩]

/-- The gateway is started and stopped, then the broker is started. -/
def oneAfterTheOther : List (Command Externals) :=
  [.start .gateway (fairWeather true), .stop .gateway (fairWeather true),
    .start .mosquitto (fairWeather true)]

/-- The same commands, the broker's in the middle, and a client that asks for the statuses. -/
def interleaved : List (Command Externals) :=
  [.start .gateway (fairWeather true), .status, .start .mosquitto (fairWeather true),
    .stop .gateway (fairWeather true)]

/-- Both orders leave the gateway stopped and the broker running. -/
theorem interleavings_indistinguishable_broker :
    (∀ id, commandsOn id oneAfterTheOther = commandsOn id interleaved) ∧
      (∀ id, (serveAll gatewayAndBroker oneAfterTheOther).sup.statuses id =
          (serveAll gatewayAndBroker interleaved).sup.statuses id) ∧
      (serveAll gatewayAndBroker interleaved).sup.statuses .mosquitto = some (.running 1234) := by
  have hsame : ∀ id, commandsOn id oneAfterTheOther = commandsOn id interleaved := by
    intro id
    cases id <;> rfl
  exact ⟨hsame,
    fun id => ((interleavings_indistinguishable gatewayAndBroker _ _ hsame).1 id).1, rfl⟩

end HamletInterleaving
