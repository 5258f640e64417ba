import Hamlet.ServiceProofs

/-!
# Starting a service again after failed starts

The supervisor lets a service whose status is `Failed` be started again, so a failed `start()` ought
to leave the service as startable as it found it. Each `start()` is a chain of fallible calls, and
whether that is so depends on what it did before the call that failed:

* the broker changes nothing before the process is there;
* the two cloud gateway clients have no fallible call at all;
* the gateway stores its shutdown sender and THEN builds the TLS configuration: a failure there
  leaves a service that says it is running and has no accept loop;
* the MQTT client takes its channel ends and THEN reads the certificate files: a failure there drops
  them, and no later start can succeed.

`AfterFailures` is the state of a service after any sequence of failed starts; `recovers_iff` reads
off it, for every service and every such sequence, whether the next start succeeds.
-/

namespace HamletRecovery

open EventRun HamletSupervisor HamletService HamletConfig

/-- A `start()` that returned `Err`, and the service it leaves. -/
def failedStart (svc : AnyService) (env : Externals) : Option AnyService :=
  match ManagedService.start svc env with
  | (.error _, svc') => some svc'
  | (.ok _, _) => none

theorem failedStart_eq_some {svc svc' : AnyService} {env : Externals} :
    failedStart svc env = some svc' ↔ ∃ e, ManagedService.start svc env = (.error e, svc') := by
  rw [failedStart]
  split
  · next e svc₁ heq => simp [heq]
  · next pid svc₁ heq => simp [heq]

/-- The start got past the listener: it was bound, and its address read. -/
def Listens (env : Externals) : Prop :=
  env.bind = .ok () ∧ env.localAddr = .ok ()

/-- What the MQTT client needs to be configured for the mode it is in. -/
def Configured (c : MqttClientConfig) : Prop :=
  c.tlsMode = .mutual → c.cafile.isSome ∧ c.certfile.isSome ∧ c.keyfile.isSome

/-- When a service can be started after failed starts: the gateway if none of them got past the
    listener, the MQTT client if there were none. -/
def CanRecover : ServiceConfig → List Externals → Prop
  | .gateway _, fails => ∀ env ∈ fails, ¬ Listens env
  | .mqttClient c, fails => fails = [] ∧ Configured c
  | .mosquitto _, _ => True
  | .cloudGateway _, _ => True
  | .gatewayMqtt _, _ => True

-- ── What failed starts leave ─────────────────────────────────────────────────

/-- A service after failed starts. -/
def AfterFailures : ServiceConfig → List Externals → AnyService → Prop
  | .gateway c, fails, svc =>
      ∃ b, svc = .gateway ⟨c, b, false, false⟩ ∧ (b = true ↔ ∃ env ∈ fails, Listens env)
  | .mosquitto c, _, svc => svc = .mosquitto (.new c)
  | .mqttClient c, fails, svc =>
      (fails = [] ∧ svc = .mqttClient (.new c)) ∨
        (fails ≠ [] ∧ ∃ s, svc = .mqttClient s ∧ s.shutdownTx = false ∧ s.cmdRx = false)
  | .cloudGateway c, _, svc => svc = .cloudGateway (.new c)
  | .gatewayMqtt c, _, svc => svc = .gatewayMqtt (.new c)

theorem afterFailures_build (c : ServiceConfig) : AfterFailures c [] c.build := by
  cases c with
  | gateway c => exact ⟨false, rfl, by simp⟩
  | mosquitto c => exact rfl
  | mqttClient c => exact .inl ⟨rfl, rfl⟩
  | cloudGateway c => exact rfl
  | gatewayMqtt c => exact rfl

/-- The gateway without an accept loop: the sender is stored as soon as the listener is there,
    whatever the TLS configuration says next. -/
theorem gateway_start_idle (c : HttpConfig) (env : Externals) :
    GatewayService.start ⟨c, false, false, false⟩ env =
      match env.bind, env.localAddr with
      | .error e, _ =>
          (.error ("Failed to bind listener on " ++ (GatewayService.new c).addr ++ ": " ++ e),
            ⟨c, false, false, false⟩)
      | .ok (), .error e =>
          (.error ("Failed to get local address: " ++ e), ⟨c, false, false, false⟩)
      | .ok (), .ok () =>
          if c.tlsEnabled then
            match env.tlsConfig with
            | .error e => (.error e, ⟨c, true, false, false⟩)
            | .ok () => (.ok 0, ⟨c, true, true, false⟩)
          else (.ok 0, ⟨c, true, true, false⟩) := by
  have hbind : GatewayService.bind ⟨c, false, false, false⟩ env = env.bind :=
    if_neg fun h => Bool.noConfusion h.2
  rw [GatewayService.start, if_neg Bool.false_ne_true]
  show (match GatewayService.initializeGateway ⟨c, false, false, false⟩ env with
    | .error e => _
    | .ok () => _) = _
  rw [GatewayService.initializeGateway, hbind]
  cases env.bind with
  | error e => rfl
  | ok u =>
      cases env.localAddr with
      | error e => rfl
      | ok u' => rfl

/-- A start of the gateway that failed stored the sender exactly when it got past the listener. -/
theorem gateway_start_error {c : HttpConfig} {b : Bool} {env : Externals} {e : String}
    {s : GatewayService}
    (h : GatewayService.start ⟨c, b, false, false⟩ env = (.error e, s)) :
    ∃ b', s = ⟨c, b', false, false⟩ ∧ (b' = true ↔ b = true ∨ Listens env) := by
  cases b with
  | true =>
      obtain rfl := (Prod.mk.inj h).2
      exact ⟨true, rfl, by simp⟩
  | false =>
      rw [gateway_start_idle] at h
      split at h
      · next e' addr hbind =>
          obtain rfl := (Prod.mk.inj h).2
          exact ⟨false, rfl, by simp [Listens, hbind]⟩
      · next e' hbind haddr =>
          obtain rfl := (Prod.mk.inj h).2
          exact ⟨false, rfl, by simp [Listens, haddr]⟩
      · next hbind haddr =>
          refine ⟨true, ?_, by simp [Listens, hbind, haddr]⟩
          split at h
          · split at h
            · exact (Prod.mk.inj h).2.symm
            · cases (Prod.mk.inj h).1
          · cases (Prod.mk.inj h).1

/-- The broker stores nothing before its process is there. -/
theorem mosquitto_start_error {s s' : MosquittoBrokerageService} {env : Externals} {e : String}
    (h : s.start env = (.error e, s')) : s' = s := by
  rw [MosquittoBrokerageService.start] at h
  split at h
  · exact (Prod.mk.inj h).2.symm
  · split at h
    · exact (Prod.mk.inj h).2.symm
    · split at h
      · exact (Prod.mk.inj h).2.symm
      · exact (Prod.mk.inj h).2.symm
      · cases (Prod.mk.inj h).1

theorem takeChannels_shutdownTx (s : MqttClientService) :
    s.takeChannels.2.shutdownTx = s.shutdownTx := by
  rw [MqttClientService.takeChannels]
  split
  · rfl
  · dsimp only
    split
    · rfl
    · split <;> rfl

/-- The MQTT client has no command receiver after a failed start, however far that got. -/
theorem mqttClient_start_error {s s' : MqttClientService} {env : Externals} {e : String}
    (hs : s.shutdownTx = false) (h : s.start env = (.error e, s')) :
    s'.shutdownTx = false ∧ s'.cmdRx = false := by
  have htake : s.takeChannels.2.shutdownTx = false ∧ s.takeChannels.2.cmdRx = false :=
    ⟨(takeChannels_shutdownTx s).trans hs, s.takeChannels_spec.2⟩
  rw [MqttClientService.start, if_neg (by rw [hs]; exact Bool.false_ne_true)] at h
  split at h
  · next e' s₁ heq =>
      rw [heq] at htake
      obtain rfl := (Prod.mk.inj h).2
      exact htake
  · next s₁ heq =>
      rw [heq] at htake
      split at h
      · obtain rfl := (Prod.mk.inj h).2
        exact htake
      · cases (Prod.mk.inj h).1

/-- A failed start behind `Box<dyn ManagedService>` is a failed start of the service in it. -/
theorem of_map_eq_error {α : Type} {p : Except String ℕ × α} {f : α → AnyService} {e : String}
    {svc : AnyService} (h : p.map id f = (.error e, svc)) : ∃ s, p = (.error e, s) ∧ svc = f s := by
  obtain ⟨r, s⟩ := p
  obtain ⟨rfl, rfl⟩ := Prod.mk.inj h
  exact ⟨s, rfl, rfl⟩

/-- One more failed start. -/
theorem afterFailures_step {c : ServiceConfig} {fails : List Externals} {svc svc' : AnyService}
    {env : Externals} (h : AfterFailures c fails svc) (hfail : failedStart svc env = some svc') :
    AfterFailures c (fails ++ [env]) svc' := by
  obtain ⟨e, hstart⟩ := failedStart_eq_some.mp hfail
  cases c with
  | gateway c =>
      obtain ⟨b, rfl, hb⟩ := h
      obtain ⟨s, hs, rfl⟩ := of_map_eq_error hstart
      obtain ⟨b', rfl, hb'⟩ := gateway_start_error hs
      refine ⟨b', rfl, ?_⟩
      rw [hb', hb]
      simp [or_and_right, exists_or]
  | mosquitto c =>
      obtain rfl : svc = _ := h
      obtain ⟨s, hs, rfl⟩ := of_map_eq_error hstart
      exact congrArg AnyService.mosquitto (mosquitto_start_error hs)
  | mqttClient c =>
      obtain ⟨s, rfl, hshut⟩ : ∃ s, svc = .mqttClient s ∧ s.shutdownTx = false := by
        rcases h with ⟨-, rfl⟩ | ⟨-, s, rfl, hshut, -⟩
        · exact ⟨_, rfl, rfl⟩
        · exact ⟨s, rfl, hshut⟩
      obtain ⟨s', hs, rfl⟩ := of_map_eq_error hstart
      exact .inr ⟨by simp, s', rfl, mqttClient_start_error hshut hs⟩
  | cloudGateway c =>
      -- the first start of a cloud gateway client does not fail
      obtain rfl : svc = _ := h
      cases (Prod.mk.inj hstart).1
  | gatewayMqtt c =>
      obtain rfl : svc = _ := h
      cases (Prod.mk.inj hstart).1

theorem afterFailures_run {c : ServiceConfig} {fails : List Externals} {svc : AnyService}
    (hrun : run failedStart c.build fails = some svc) : AfterFailures c fails svc :=
  run_induction (P := AfterFailures c) (afterFailures_build c)
    (fun _ _ _ _ _ ih hfail => afterFailures_step ih hfail) fails svc hrun

-- ── The next start ───────────────────────────────────────────────────────────

theorem addRoots_ok {certs : List (Except String (Except String Unit))}
    (h : ∀ c ∈ certs, c = .ok (.ok ())) : addRoots certs = .ok () := by
  induction certs with
  | nil => rfl
  | cons c certs ih =>
      rw [h c List.mem_cons_self]
      exact ih fun d hd => h d (List.mem_cons_of_mem _ hd)

/-- When nothing external fails, the options are built exactly when the client is configured for
    its mode. -/
theorem buildMqttOpts_ok_iff (c : MqttClientConfig) {env : Externals} (henv : env.AllSucceed) :
    buildMqttOpts c env = .ok () ↔ Configured c := by
  rw [buildMqttOpts, Configured]
  cases c.tlsMode with
  | none => simp
  | serverOnly =>
      cases c.cafile with
      | none => simp [buildServerTls]
      | some cafile => simp [buildServerTls, henv.readFile, addRoots_ok henv.caCerts]
  | _ =>
      -- the mutual mode: every path is looked up before the first file is read
      cases c.cafile with
      | none => simp [required, bind, Except.bind]
      | some cafile =>
          cases c.certfile with
          | none => simp [required, bind, Except.bind]
          | some certfile =>
              cases c.keyfile with
              | none => simp [required, bind, Except.bind]
              | some keyfile => simp [required, readAs, henv.readFile, bind, Except.bind]

/-- The first start of the MQTT client is as good as its options. -/
theorem mqttClient_start_new (c : MqttClientConfig) (env : Externals) :
    (MqttClientService.start (.new c) env).1 = (buildMqttOpts c env).map fun _ => 0 := by
  have hstart : MqttClientService.start (.new c) env =
      match buildMqttOpts c env with
      | .error e => (.error e, ⟨c, false, false, false, false, false⟩)
      | .ok () => (.ok 0, ⟨c, false, true, true, false, false⟩) := rfl
  rw [hstart]
  cases buildMqttOpts c env <;> rfl

/-- No start of the MQTT client succeeds without the command receiver. -/
theorem mqttClient_start_consumed {s : MqttClientService} (hcmd : s.cmdRx = false)
    (env : Externals) (pid : ℕ) : (s.start env).1 ≠ .ok pid := by
  rw [MqttClientService.start]
  by_cases hshut : s.shutdownTx = true
  · rw [if_pos hshut]
    intro h
    cases h
  · rw [if_neg hshut, MqttClientService.takeChannels, if_pos (by rw [hcmd]; rfl)]
    intro h
    cases h

/-- After failed starts the service is idle and the next start succeeds exactly when it can
    recover. -/
theorem start_after_failures_iff {c : ServiceConfig} {fails : List Externals} {svc : AnyService}
    (h : AfterFailures c fails svc) {env : Externals} (henv : env.AllSucceed) :
    ((∀ env', (ManagedService.isRunning svc env').1 = false) ∧
      ∃ pid, (ManagedService.start svc env).1 = .ok pid) ↔ CanRecover c fails := by
  cases c with
  | gateway c =>
      obtain ⟨b, rfl, hb⟩ := h
      have hcan : CanRecover (.gateway c) fails ↔ b = false := by
        rw [← Bool.not_eq_true, hb]
        simp [CanRecover]
      rw [hcan]
      cases b with
      | true => exact ⟨fun h => h.1 env, fun hb => Bool.noConfusion hb⟩
      | false =>
          refine ⟨fun _ => rfl, fun _ => ⟨fun _ => rfl, 0, ?_⟩⟩
          show (GatewayService.start ⟨c, false, false, false⟩ env).1 = .ok 0
          rw [gateway_start_idle, henv.bind, henv.localAddr, henv.tlsConfig]
          dsimp only
          split <;> rfl
  | mosquitto c =>
      obtain rfl : svc = _ := h
      obtain ⟨pid, hspawn⟩ := henv.spawn
      refine ⟨fun _ => trivial, fun _ => ⟨fun _ => rfl, pid, ?_⟩⟩
      show (MosquittoBrokerageService.start (.new c) env).1 = .ok pid
      simp [MosquittoBrokerageService.start, MosquittoBrokerageService.new, henv.fileExists, hspawn]
  | mqttClient c =>
      rcases h with ⟨rfl, rfl⟩ | ⟨hne, s, rfl, hshut, hcmd⟩
      · have hcan : CanRecover (.mqttClient c) [] ↔ buildMqttOpts c env = .ok () := by
          rw [buildMqttOpts_ok_iff c henv]
          simp [CanRecover]
        have hstart : ∀ pid, (ManagedService.start (AnyService.mqttClient (.new c)) env).1 =
            .ok pid ↔ (buildMqttOpts c env).map (fun _ => 0) = .ok pid := fun pid => by
          rw [← mqttClient_start_new]; rfl
        rw [hcan]
        simp only [hstart]
        cases buildMqttOpts c env with
        | error e => simp [Except.map]
        | ok u => exact ⟨fun _ => rfl, fun _ => ⟨fun _ => rfl, 0, rfl⟩⟩
      · constructor
        · rintro ⟨-, pid, hpid⟩
          exact absurd hpid (mqttClient_start_consumed hcmd env pid)
        · rintro ⟨rfl, -⟩
          exact absurd rfl hne
  | cloudGateway c =>
      obtain rfl : svc = _ := h
      exact ⟨fun _ => trivial, fun _ => ⟨fun _ => rfl, 0, rfl⟩⟩
  | gatewayMqtt c =>
      obtain rfl : svc = _ := h
      exact ⟨fun _ => trivial, fun _ => ⟨fun _ => rfl, 0, rfl⟩⟩

-- ── Through the supervisor ───────────────────────────────────────────────────

/-- `handle_start` on a service that may be started. -/
theorem handleStart_startable {sup : Supervisor AnyService} (hk : sup.SameKeys) {id : ServiceId}
    {st : ServiceStatus} {svc : AnyService} (hst : sup.statuses id = some st)
    (hable : st.startable = true) (hsvc : sup.services id = some svc) (env : Externals) :
    (sup.handleStart id env).result = (ManagedService.start svc env).1.map (fun _ => ()) ∧
      (sup.handleStart id env).sup =
        sup.set id (ManagedService.start svc env).2
          (statusOfStart (ManagedService.start svc env).1) := by
  rcases handleStart_cases hk id env with ⟨hno, -⟩ | ⟨st₁, svc₁, r, svc', -, -, hsvc₁, hr, heq⟩
  · rw [hno st hst] at hable
    exact Bool.noConfusion hable
  · obtain rfl : svc = svc₁ := Option.some.inj (hsvc.symm.trans hsvc₁)
    rw [heq, hr]
    exact ⟨rfl, rfl⟩

/-- The supervisor holds a service that may be started. -/
structure Startable (sup : Supervisor AnyService) (id : ServiceId) (svc : AnyService) : Prop where
  same_keys : sup.SameKeys
  service   : sup.services id = some svc
  status    : ∃ st, sup.statuses id = some st ∧ st.startable = true

/-- The `Start` commands of a client that tries again and again. -/
def startAgain (id : ServiceId) (envs : List Externals) : List (Command Externals) :=
  envs.map (.start id)

section Supervised

variable (regs : List (Registration AnyService)) {id : ServiceId} {c : ServiceConfig}
  (hreg : lastRegistration regs id = some ⟨id, c.build, true⟩)

include hreg in
theorem startable_registerAll : Startable (registerAll regs) id c.build := by
  obtain ⟨hst, hsvc⟩ := registerAll_lookup regs id
  rw [hreg] at hst hsvc
  have hk : (registerAll regs).Keeps fun _ _ _ => True :=
    registerAll_keeps regs fun _ _ _ => trivial
  exact ⟨hk.same_keys, hsvc, .stopped, hst, rfl⟩

/-- A `Start` command that failed leaves the status `Failed`, and the service as the failed start
    left it. -/
theorem startable_handleStart {sup : Supervisor AnyService} {svc svc' : AnyService}
    {env : Externals} (h : Startable sup id svc) (hfail : failedStart svc env = some svc') :
    Startable (sup.handleStart id env).sup id svc' := by
  obtain ⟨st, hst, hable⟩ := h.status
  obtain ⟨e, hstart⟩ := failedStart_eq_some.mp hfail
  obtain ⟨-, hsup⟩ := handleStart_startable h.same_keys hst hable h.service env
  rw [hsup, hstart]
  exact ⟨h.same_keys.set _ _ _, Supervisor.set_services_self ..,
    .failed e, Supervisor.set_statuses_self .., rfl⟩

include hreg in
theorem startable_after_failures {fails : List Externals} {svc : AnyService}
    (hrun : run failedStart c.build fails = some svc) :
    Startable (serveAll (registerAll regs) (startAgain id fails)).sup id svc := by
  refine run_induction
    (P := fun fails svc => Startable (serveAll (registerAll regs) (startAgain id fails)).sup id svc)
    (startable_registerAll regs hreg) ?_ fails svc hrun
  intro fails env svc svc' _ ih hfail
  rw [startAgain, List.map_append, List.map_singleton, serveAll_concat]
  exact startable_handleStart ih hfail

/-- What failed starts should leave, and what the next `Start` should do: nothing runs, the start
    succeeds, its reply is `Ok` and the status is `Running`. -/
structure Recovers (id : ServiceId) (fails : List Externals) (svc : AnyService) (env : Externals) :
    Prop where
  not_running : ∀ env', (ManagedService.isRunning svc env').1 = false
  starts      : ∃ pid, (ManagedService.start svc env).1 = .ok pid
  replied     : (serveAll (registerAll regs) (startAgain id (fails ++ [env]))).replies.getLast? =
    some (.done (.ok ()))
  running     : ∃ pid,
    (serveAll (registerAll regs) (startAgain id (fails ++ [env]))).sup.statuses id =
      some (.running pid)

include hreg in
/-- **When a service recovers from failed starts.** For every service registered as available,
    every sequence of starts that returned `Err`, and a start for which nothing external fails. -/
theorem recovers_iff (fails : List Externals) (svc : AnyService)
    (hrun : run failedStart c.build fails = some svc) (env : Externals) (henv : env.AllSucceed) :
    Recovers regs id fails svc env ↔ CanRecover c fails := by
  have hiff := start_after_failures_iff (afterFailures_run hrun) henv
  constructor
  · intro h
    exact hiff.mp ⟨h.not_running, h.starts⟩
  · intro hcan
    obtain ⟨hidle, pid, hpid⟩ := hiff.mpr hcan
    have hs := startable_after_failures regs hreg hrun
    obtain ⟨st, hst, hable⟩ := hs.status
    obtain ⟨hresult, hsup⟩ := handleStart_startable hs.same_keys hst hable hs.service env
    have hserve : serveAll (registerAll regs) (startAgain id (fails ++ [env])) =
        serve (serveAll (registerAll regs) (startAgain id fails)) (.start id env) := by
      rw [startAgain, List.map_append, List.map_singleton, serveAll_concat]
      rfl
    refine ⟨hidle, ⟨pid, hpid⟩, ?_, pid, ?_⟩
    · rw [hserve]
      show List.getLast? (_ ++ [Reply.done (Supervisor.handleStart _ id env).result]) = _
      rw [List.getLast?_concat, hresult, hpid]
      rfl
    · rw [hserve]
      show (Supervisor.handleStart _ id env).sup.statuses id = _
      rw [hsup, hpid]
      exact Supervisor.set_statuses_self ..

end Supervised

/-- MQTT over TLS, as `MQTT_TLS_ENABLED=true` configures the local client. -/
def tlsMqttClient : ServiceConfig :=
  .mqttClient (.fromEnv (fun name => if name = "MQTT_TLS_ENABLED" then some "true" else none)
    "/etc/hamlet")

/-- No file can be read. -/
def unreadable : Externals :=
  { fairWeather true with readFile := fun _ => .error "No such file or directory (os error 2)" }

/-- The listener cannot be bound. -/
def portTaken : Externals :=
  { fairWeather true with bind := .error "Address already in use (os error 98)" }

/-- The gateway recovers from a port that was taken. -/
theorem recovers_iff_portTaken :
    run failedStart defaultHttp.build [portTaken] =
        some (.gateway ⟨.fromEnv fun _ => none, false, false, false⟩) ∧
      (fairWeather true).AllSucceed ∧
      Recovers [⟨.gateway, defaultHttp.build, true⟩] .gateway [portTaken]
        (.gateway ⟨.fromEnv fun _ => none, false, false, false⟩) (fairWeather true) := by
  refine ⟨rfl, fairWeather_allSucceed true, ?_⟩
  refine (recovers_iff [⟨.gateway, defaultHttp.build, true⟩] rfl [portTaken] _ rfl
    (fairWeather true) (fairWeather_allSucceed true)).mpr ?_
  intro env henv hlistens
  rw [List.mem_singleton.mp henv] at hlistens
  exact nomatch hlistens.1

/-- **One unreadable file and the MQTT client never starts again.** The first start takes the
    channel ends and then fails to read the CA file; the second finds everything in order and fails
    because the command receiver is gone. -/
theorem mqttClient_never_recovers :
    ∃ svc, run failedStart tlsMqttClient.build [unreadable] = some svc ∧
      (fairWeather true).AllSucceed ∧
      ¬ Recovers [⟨.mqttClient, tlsMqttClient.build, true⟩] .mqttClient [unreadable] svc
        (fairWeather true) := by
  refine ⟨_, rfl, fairWeather_allSucceed true, ?_⟩
  intro h
  obtain ⟨pid, hpid⟩ := h.starts
  have hconsumed : Except.error "MqttClientService command receiver already consumed" = .ok pid :=
    hpid
  exact nomatch hconsumed

end HamletRecovery
