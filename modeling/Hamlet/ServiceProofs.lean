import Hamlet.SupervisorProofs
import Hamlet.ConfigProofs

/-!
# The five managed services, and restarting them

Each service keeps its own resources between `start()` and `stop()`: shutdown senders, the receiving
ends of channels that were made ONCE, a child process, a listener in a background task. This file
models the five implementations of `ManagedService` with exactly those resources, the outcome of
every external call being a field of `Externals`.

Teardown is asynchronous: `stop()` only signals the accept loop of the gateway, which owns the
listener until it is scheduled again. `Externals.drained` says whether that has happened by the
time of a call.

`restart_ok_iff` decides, for every service and every history of commands, whether a restart of a
running service succeeds when nothing external fails: always for the broker process, for the
gateway unless the old listener is still there, and NEVER for the three clients, whose channel ends
were consumed by the first start.
-/

namespace HamletService

open HamletSupervisor HamletConfig

/-- What the external calls of a `start()`, `stop()` or `is_running()` answer. -/
structure Externals where
  readFile   : String → Except String Unit
  fileExists : String → Bool
  /-- The certificates of a pinned CA file: parsed, and then added to the root store. -/
  caCerts    : List (Except String (Except String Unit))
  /-- The spawned process and its id. -/
  spawn      : Except String (Option ℕ)
  /-- `TcpListener::bind`, on an address with no live listener. -/
  bind       : Except String Unit
  localAddr  : Except String Unit
  tlsConfig  : Except String Unit
  /-- `Child::try_wait`: whether the process has exited. -/
  tryWait    : Except String Bool
  /-- The accept loops that were signalled have run to their end. -/
  drained    : Bool

/-- Nothing external fails. -/
structure Externals.AllSucceed (env : Externals) : Prop where
  readFile   : ∀ path, env.readFile path = .ok ()
  fileExists : ∀ path, env.fileExists path = true
  caCerts    : ∀ c ∈ env.caCerts, c = .ok (.ok ())
  spawn      : ∃ pid, env.spawn = .ok (some pid)
  bind       : env.bind = .ok ()
  localAddr  : env.localAddr = .ok ()
  tlsConfig  : env.tlsConfig = .ok ()

-- ── The HTTP gateway ─────────────────────────────────────────────────────────

/-- `GatewayService`; `shutdownTx` says whether the sender is there. `listening` is the accept loop
    of that sender, `closing` one that was signalled and still owns its listener. -/
structure GatewayService where
  config     : HttpConfig
  shutdownTx : Bool
  listening  : Bool
  closing    : Bool

namespace GatewayService

def new (config : HttpConfig) : GatewayService where
  config     := config
  shutdownTx := false
  listening  := false
  closing    := false

def addr (s : GatewayService) : String := s.config.host ++ ":" ++ toString s.config.port

/-- The signalled loops that have ended are gone. -/
def settle (s : GatewayService) (env : Externals) : GatewayService :=
  { s with closing := s.closing && !env.drained }

/-- `TcpListener::bind`: port 0 is never taken, any other port only once. -/
def bind (s : GatewayService) (env : Externals) : Except String Unit :=
  if s.config.port ≠ 0 ∧ (s.listening || s.closing) = true then
    .error "Address already in use (os error 98)"
  else env.bind

/-- `initialize`: the bound listener, dropped again when an error is returned. -/
def initializeGateway (s : GatewayService) (env : Externals) : Except String Unit :=
  match s.bind env with
  | .error e => .error ("Failed to bind listener on " ++ s.addr ++ ": " ++ e)
  | .ok () =>
      match env.localAddr with
      | .error e => .error ("Failed to get local address: " ++ e)
      | .ok () => .ok ()

/-- `start`. The sender is stored before the TLS configuration is built. -/
def start (s : GatewayService) (env : Externals) : Except String ℕ × GatewayService :=
  if s.shutdownTx then (.error "GatewayService is already running", s)
  else
    let s := s.settle env
    match s.initializeGateway env with
    | .error e => (.error e, s)
    | .ok () =>
        let s := { s with shutdownTx := true }
        if s.config.tlsEnabled then
          match env.tlsConfig with
          | .error e => (.error e, s)
          | .ok () => (.ok 0, { s with listening := true })
        else (.ok 0, { s with listening := true })

/-- `stop` signals the accept loop and does not wait for it. -/
def stop (s : GatewayService) : Except String Unit × GatewayService :=
  if s.shutdownTx then
    (.ok (),
      { s with shutdownTx := false, listening := false, closing := s.closing || s.listening })
  else (.error "GatewayService is not running", s)

def isRunning (s : GatewayService) : Bool × GatewayService := (s.shutdownTx, s)

end GatewayService

-- ── The broker process ───────────────────────────────────────────────────────

/-- `MosquittoBrokerageService`, with the id of its child process. -/
structure MosquittoBrokerageService where
  config : MqttBrokerageConfig
  child  : Option ℕ

namespace MosquittoBrokerageService

def new (config : MqttBrokerageConfig) : MosquittoBrokerageService where
  config := config
  child  := none

/-- `start`. A child whose id cannot be read is dropped, which kills it. -/
def start (s : MosquittoBrokerageService) (env : Externals) :
    Except String ℕ × MosquittoBrokerageService :=
  if s.child.isSome then (.error "Mosquitto is already running", s)
  else if !env.fileExists s.config.configFile then
    (.error ("Config file not found at " ++ s.config.configFile ++
      ". Call write_config() first."), s)
  else
    match env.spawn with
    | .error e => (.error ("Failed to spawn mosquitto: " ++ e), s)
    | .ok none => (.error "Failed to get mosquitto PID", s)
    | .ok (some pid) => (.ok pid, { s with child := some pid })

/-- `stop` waits for the process to exit, and kills it after five seconds. -/
def stop (s : MosquittoBrokerageService) : Except String Unit × MosquittoBrokerageService :=
  if s.child.isSome then (.ok (), { s with child := none })
  else (.error "Mosquitto is not running", s)

/-- `is_running` forgets a child that has exited. -/
def isRunning (s : MosquittoBrokerageService) (env : Externals) :
    Bool × MosquittoBrokerageService :=
  if s.child.isSome then
    match env.tryWait with
    | .ok true => (false, { s with child := none })
    | .ok false => (true, s)
    | .error _ => (false, s)
  else (false, s)

end MosquittoBrokerageService

-- ── The MQTT client ──────────────────────────────────────────────────────────

/-- The loop of `build_server_tls` over the certificates of a pinned CA file. -/
def addRoots : List (Except String (Except String Unit)) → Except String Unit
  | [] => .ok ()
  | .error e :: _ => .error ("Failed to parse gateway CA: " ++ e)
  | .ok (.error e) :: _ => .error ("Failed to add gateway CA: " ++ e)
  | .ok (.ok ()) :: rest => addRoots rest

/-- `build_server_tls`: without a pinned CA the bundled roots are used. -/
def buildServerTls (cafile : Option String) (env : Externals) : Except String Unit :=
  match cafile with
  | none => .ok ()
  | some cafile =>
      match env.readFile cafile with
      | .error e => .error ("Failed to read gateway CA '" ++ cafile ++ "': " ++ e)
      | .ok () => addRoots env.caCerts

/-- A path that the mutual mode needs. -/
def required (file : Option String) (missing : String) : Except String String :=
  match file with
  | none => .error missing
  | some path => .ok path

/-- Reading one of the files of the mutual mode. -/
def readAs (path what : String) (env : Externals) : Except String Unit :=
  match env.readFile path with
  | .error e => .error ("Failed to read " ++ what ++ " '" ++ path ++ "': " ++ e)
  | .ok () => .ok ()

/-- `build_mqtt_opts`, whether it succeeds: all paths are looked up before the first file is
    read. -/
def buildMqttOpts (config : MqttClientConfig) (env : Externals) : Except String Unit :=
  match config.tlsMode with
  | .none => .ok ()
  | .serverOnly => buildServerTls config.cafile env
  | .mutual => do
      let cafile ← required config.cafile "Mutual TLS requires a CA file"
      let certfile ← required config.certfile "Mutual TLS requires a client cert"
      let keyfile ← required config.keyfile "Mutual TLS requires a client key"
      readAs cafile "CA cert" env
      readAs certfile "client cert" env
      readAs keyfile "client key" env

/-- The root store that a server is verified against. -/
inductive Roots where
  | webpki
  | pinned (cafile : String)
  deriving DecidableEq, Repr

/-- The choice of `build_server_tls` and of `tls_connector`. -/
def Roots.ofCafile : Option String → Roots
  | none        => .webpki
  | some cafile => .pinned cafile

/-- `Transport`, with the files whose contents it is given. -/
inductive Transport where
  | tcp
  | serverTls (roots : Roots)
  | mutualTls (cafile certfile keyfile : String)
  deriving DecidableEq, Repr

/-- The roots the broker is verified against. -/
def Transport.roots? : Transport → Option Roots
  | .tcp                  => none
  | .serverTls roots      => some roots
  | .mutualTls cafile _ _ => some (.pinned cafile)

/-- `MqttOptions`, as far as it is set. -/
structure MqttOptions where
  clientId    : String
  host        : String
  port        : ℕ
  keepAlive   : ℕ
  transport   : Transport
  credentials : Option (String × String)
  deriving DecidableEq, Repr

/-- `MqttOptions::new`, with the keep-alive of 30 seconds. -/
def MqttOptions.new (config : MqttClientConfig) : MqttOptions where
  clientId    := config.clientId
  host        := config.host
  port        := config.port
  keepAlive   := 30
  transport   := .tcp
  credentials := none

/-- `build_mqtt_opts`, with the options it returns. -/
def buildOptions (config : MqttClientConfig) (env : Externals) : Except String MqttOptions :=
  let opts := MqttOptions.new config
  match config.tlsMode with
  | .none => .ok { opts with credentials := some (config.username, config.password) }
  | .serverOnly => do
      buildServerTls config.cafile env
      .ok { opts with
        transport   := .serverTls (.ofCafile config.cafile)
        credentials := some (config.username, config.password) }
  | .mutual => do
      let cafile ← required config.cafile "Mutual TLS requires a CA file"
      let certfile ← required config.certfile "Mutual TLS requires a client cert"
      let keyfile ← required config.keyfile "Mutual TLS requires a client key"
      readAs cafile "CA cert" env
      readAs certfile "client cert" env
      readAs keyfile "client key" env
      .ok { opts with transport := .mutualTls cafile certfile keyfile }

/-- The options do not matter for whether it succeeds, and with which error it fails. -/
theorem buildOptions_forget (config : MqttClientConfig) (env : Externals) :
    (fun _ => ()) <$> buildOptions config env = buildMqttOpts config env := by
  have hforget : ∀ (x : Except String Unit) (opts : MqttOptions),
      (x >>= fun _ => (fun _ => ()) <$> (.ok opts : Except String MqttOptions)) = x := by
    intro x opts
    cases x <;> rfl
  rw [buildOptions, buildMqttOpts]
  cases config.tlsMode
  · rfl
  · rw [map_bind]
    exact hforget _ _
  · simp only [map_bind, hforget]

/-- `MqttClientService`; each field but `config` says whether the channel end is still there. -/
structure MqttClientService where
  config        : MqttClientConfig
  cmdRx         : Bool
  shutdownTx    : Bool
  cmdShutdownTx : Bool
  outRx         : Bool
  connectedTx   : Bool

namespace MqttClientService

def new (config : MqttClientConfig) : MqttClientService where
  config        := config
  cmdRx         := true
  shutdownTx    := false
  cmdShutdownTx := false
  outRx         := true
  connectedTx   := true

/-- `take_channels`: takes one end after the other, up to the first that is gone. -/
def takeChannels (s : MqttClientService) : Except String Unit × MqttClientService :=
  if !s.cmdRx then (.error "MqttClientService command receiver already consumed", s)
  else
    let s := { s with cmdRx := false }
    if !s.outRx then (.error "MqttClientService outbound receiver already consumed", s)
    else
      let s := { s with outRx := false }
      if !s.connectedTx then (.error "MqttClientService connected sender already consumed", s)
      else (.ok (), { s with connectedTx := false })

/-- `start`. The channel ends are taken before the options are built. -/
def start (s : MqttClientService) (env : Externals) : Except String ℕ × MqttClientService :=
  if s.shutdownTx then (.error "MqttClientService is already running", s)
  else
    match s.takeChannels with
    | (.error e, s) => (.error e, s)
    | (.ok (), s) =>
        match buildMqttOpts s.config env with
        | .error e => (.error e, s)
        | .ok () => (.ok 0, { s with shutdownTx := true, cmdShutdownTx := true })

def stop (s : MqttClientService) : Except String Unit × MqttClientService :=
  if s.shutdownTx then (.ok (), { s with shutdownTx := false, cmdShutdownTx := false })
  else (.error "MqttClientService is not running", s)

def isRunning (s : MqttClientService) : Bool × MqttClientService := (s.shutdownTx, s)

end MqttClientService

-- ── The two cloud gateway clients ────────────────────────────────────────────

/-- A client whose one resource is the receiver of its outbound queue. -/
structure OutboundService (κ : Type) where
  config     : κ
  outboundRx : Bool
  shutdownTx : Bool

namespace OutboundService

variable {κ : Type}

def new (config : κ) : OutboundService κ where
  config     := config
  outboundRx := true
  shutdownTx := false

/-- `start` moves the receiver into the connection task. -/
def start (s : OutboundService κ) (alreadyStarted : String) :
    Except String ℕ × OutboundService κ :=
  if !s.outboundRx then (.error alreadyStarted, s)
  else (.ok 0, { s with outboundRx := false, shutdownTx := true })

/-- `stop` never fails. -/
def stop (s : OutboundService κ) : Except String Unit × OutboundService κ :=
  (.ok (), { s with shutdownTx := false })

def isRunning (s : OutboundService κ) : Bool × OutboundService κ := (s.shutdownTx, s)

end OutboundService

/-- What `CloudGatewayService::new` is given. -/
structure CloudGatewayConfig where
  serverUrl  : String
  gatewayUrl : String

abbrev CloudGatewayService := OutboundService CloudGatewayConfig

def CloudGatewayService.start (s : CloudGatewayService) : Except String ℕ × CloudGatewayService :=
  OutboundService.start s "CloudGatewayService already started"

structure GatewayMqttConfig where
  gatewayUrl   : String
  username     : String
  password     : String
  brokerCafile : Option String
  brokerTls    : Bool

abbrev GatewayMqttService := OutboundService GatewayMqttConfig

def GatewayMqttService.start (s : GatewayMqttService) : Except String ℕ × GatewayMqttService :=
  OutboundService.start s "GatewayMqttService already started"

-- ── One type for all of them ─────────────────────────────────────────────────

/-- `Box<dyn ManagedService>`, for the five implementations. -/
inductive AnyService where
  | gateway (s : GatewayService)
  | mosquitto (s : MosquittoBrokerageService)
  | mqttClient (s : MqttClientService)
  | cloudGateway (s : CloudGatewayService)
  | gatewayMqtt (s : GatewayMqttService)

instance : ManagedService AnyService Externals where
  start
    | .gateway s, env => (s.start env).map id .gateway
    | .mosquitto s, env => (s.start env).map id .mosquitto
    | .mqttClient s, env => (s.start env).map id .mqttClient
    | .cloudGateway s, _ => (CloudGatewayService.start s).map id .cloudGateway
    | .gatewayMqtt s, _ => (GatewayMqttService.start s).map id .gatewayMqtt
  stop
    | .gateway s, _ => s.stop.map id .gateway
    | .mosquitto s, _ => s.stop.map id .mosquitto
    | .mqttClient s, _ => s.stop.map id .mqttClient
    | .cloudGateway s, _ => s.stop.map id .cloudGateway
    | .gatewayMqtt s, _ => s.stop.map id .gatewayMqtt
  isRunning
    | .gateway s, _ => s.isRunning.map id .gateway
    | .mosquitto s, env => (s.isRunning env).map id .mosquitto
    | .mqttClient s, _ => s.isRunning.map id .mqttClient
    | .cloudGateway s, _ => s.isRunning.map id .cloudGateway
    | .gatewayMqtt s, _ => s.isRunning.map id .gatewayMqtt

/-- What a service is built from. -/
inductive ServiceConfig where
  | gateway (c : HttpConfig)
  | mosquitto (c : MqttBrokerageConfig)
  | mqttClient (c : MqttClientConfig)
  | cloudGateway (c : CloudGatewayConfig)
  | gatewayMqtt (c : GatewayMqttConfig)

/-- The constructor of the service. -/
def ServiceConfig.build : ServiceConfig → AnyService
  | .gateway c => .gateway (.new c)
  | .mosquitto c => .mosquitto (.new c)
  | .mqttClient c => .mqttClient (.new c)
  | .cloudGateway c => .cloudGateway (.new c)
  | .gatewayMqtt c => .gatewayMqtt (.new c)

-- ── What a running service holds ─────────────────────────────────────────────

/-- The configuration a service was built from. -/
def AnyService.config : AnyService → ServiceConfig
  | .gateway s => .gateway s.config
  | .mosquitto s => .mosquitto s.config
  | .mqttClient s => .mqttClient s.config
  | .cloudGateway s => .cloudGateway s.config
  | .gatewayMqtt s => .gatewayMqtt s.config

/-- What a start that returned `Ok` leaves: the gateway has its accept loop, the broker its child,
    and the clients no longer have the receivers they moved into their tasks. -/
def AnyService.Started : AnyService → Prop
  | .gateway s => s.shutdownTx = true ∧ s.listening = true
  | .mosquitto s => s.child.isSome = true
  | .mqttClient s => s.shutdownTx = true ∧ s.cmdRx = false
  | .cloudGateway s => s.outboundRx = false
  | .gatewayMqtt s => s.outboundRx = false

theorem GatewayService.start_spec (s : GatewayService) (env : Externals) :
    (s.start env).2.config = s.config ∧
      ∀ pid, (s.start env).1 = .ok pid → (AnyService.gateway (s.start env).2).Started := by
  rw [GatewayService.start]
  by_cases h : s.shutdownTx = true
  · rw [if_pos h]
    exact ⟨rfl, fun _ h => nomatch h⟩
  · rw [if_neg h]
    cases hi : (s.settle env).initializeGateway env with
    | error e => simp only [hi]; exact ⟨rfl, fun _ h => nomatch h⟩
    | ok u =>
        simp only [hi]
        by_cases htls : (s.settle env).config.tlsEnabled = true
        · rw [if_pos htls]
          cases env.tlsConfig with
          | error e => exact ⟨rfl, fun _ h => nomatch h⟩
          | ok u => exact ⟨rfl, fun _ _ => ⟨rfl, rfl⟩⟩
        · rw [if_neg htls]
          exact ⟨rfl, fun _ _ => ⟨rfl, rfl⟩⟩

theorem MosquittoBrokerageService.start_spec (s : MosquittoBrokerageService) (env : Externals) :
    (s.start env).2.config = s.config ∧
      ∀ pid, (s.start env).1 = .ok pid → (AnyService.mosquitto (s.start env).2).Started := by
  rw [MosquittoBrokerageService.start]
  by_cases h : s.child.isSome = true
  · rw [if_pos h]
    exact ⟨rfl, fun _ h => nomatch h⟩
  · rw [if_neg h]
    by_cases hfile : (!env.fileExists s.config.configFile) = true
    · rw [if_pos hfile]
      exact ⟨rfl, fun _ h => nomatch h⟩
    · rw [if_neg hfile]
      cases env.spawn with
      | error e => exact ⟨rfl, fun _ h => nomatch h⟩
      | ok pid =>
          cases pid with
          | none => exact ⟨rfl, fun _ h => nomatch h⟩
          | some pid => exact ⟨rfl, fun _ _ => rfl⟩

/-- Whatever `take_channels` answers, the command receiver is gone afterwards. -/
theorem MqttClientService.takeChannels_spec (s : MqttClientService) :
    s.takeChannels.2.config = s.config ∧ s.takeChannels.2.cmdRx = false := by
  obtain ⟨config, cmdRx, shutdownTx, cmdShutdownTx, outRx, connectedTx⟩ := s
  cases cmdRx with
  | false => exact ⟨rfl, rfl⟩
  | true =>
      cases outRx with
      | false => exact ⟨rfl, rfl⟩
      | true => cases connectedTx <;> exact ⟨rfl, rfl⟩

theorem MqttClientService.start_spec (s : MqttClientService) (env : Externals) :
    (s.start env).2.config = s.config ∧
      ∀ pid, (s.start env).1 = .ok pid → (AnyService.mqttClient (s.start env).2).Started := by
  obtain ⟨hcfg, hcmd⟩ := s.takeChannels_spec
  rw [MqttClientService.start]
  by_cases h : s.shutdownTx = true
  · rw [if_pos h]
    exact ⟨rfl, fun _ h => nomatch h⟩
  · rw [if_neg h]
    rcases htake : s.takeChannels with ⟨r, s'⟩
    rw [htake] at hcfg hcmd
    cases r with
    | error e => exact ⟨hcfg, fun _ h => nomatch h⟩
    | ok u =>
        simp only []
        cases buildMqttOpts s'.config env with
        | error e => exact ⟨hcfg, fun _ h => nomatch h⟩
        | ok u => exact ⟨hcfg, fun _ _ => ⟨rfl, hcmd⟩⟩

/-- However a start ends, the receiver is gone. -/
theorem OutboundService.start_spec {κ : Type} (s : OutboundService κ) (text : String) :
    (s.start text).2.config = s.config ∧ (s.start text).2.outboundRx = false := by
  obtain ⟨config, outboundRx, shutdownTx⟩ := s
  cases outboundRx <;> exact ⟨rfl, rfl⟩

/-- **Every start** keeps the configuration, and one that returns `Ok` leaves the service
    started. -/
theorem start_spec (svc : AnyService) (env : Externals) :
    (ManagedService.start svc env).2.config = svc.config ∧
      ∀ pid, (ManagedService.start svc env).1 = .ok pid →
        (ManagedService.start svc env).2.Started := by
  cases svc with
  | gateway s => exact ⟨congrArg ServiceConfig.gateway (s.start_spec env).1, (s.start_spec env).2⟩
  | mosquitto s =>
      exact ⟨congrArg ServiceConfig.mosquitto (s.start_spec env).1, (s.start_spec env).2⟩
  | mqttClient s =>
      exact ⟨congrArg ServiceConfig.mqttClient (s.start_spec env).1, (s.start_spec env).2⟩
  | cloudGateway s =>
      obtain ⟨hcfg, hrx⟩ := OutboundService.start_spec s "CloudGatewayService already started"
      exact ⟨congrArg ServiceConfig.cloudGateway hcfg, fun _ _ => hrx⟩
  | gatewayMqtt s =>
      obtain ⟨hcfg, hrx⟩ := OutboundService.start_spec s "GatewayMqttService already started"
      exact ⟨congrArg ServiceConfig.gatewayMqtt hcfg, fun _ _ => hrx⟩

/-- **Every stop** keeps the configuration, succeeds on a started service, and changes nothing
    when it fails. -/
theorem stop_spec (svc : AnyService) (env : Externals) :
    (ManagedService.stop svc env).2.config = svc.config ∧
      (svc.Started → (ManagedService.stop svc env).1 = .ok ()) ∧
      ∀ e, (ManagedService.stop svc env).1 = .error e → (ManagedService.stop svc env).2 = svc := by
  cases svc with
  | gateway s =>
      obtain ⟨config, shutdownTx, listening, closing⟩ := s
      cases shutdownTx with
      | false => exact ⟨rfl, fun h => Bool.noConfusion h.1, fun _ _ => rfl⟩
      | true => exact ⟨rfl, fun _ => rfl, fun _ h => nomatch h⟩
  | mosquitto s =>
      obtain ⟨config, child⟩ := s
      cases child with
      | none => exact ⟨rfl, fun h => Bool.noConfusion h, fun _ _ => rfl⟩
      | some pid => exact ⟨rfl, fun _ => rfl, fun _ h => nomatch h⟩
  | mqttClient s =>
      obtain ⟨config, cmdRx, shutdownTx, cmdShutdownTx, outRx, connectedTx⟩ := s
      cases shutdownTx with
      | false => exact ⟨rfl, fun h => Bool.noConfusion h.1, fun _ _ => rfl⟩
      | true => exact ⟨rfl, fun _ => rfl, fun _ h => nomatch h⟩
  | cloudGateway s => exact ⟨rfl, fun _ => rfl, fun _ h => nomatch h⟩
  | gatewayMqtt s => exact ⟨rfl, fun _ => rfl, fun _ h => nomatch h⟩

/-- The invariant of a supervised service: its configuration, and that it is started while its
    status is `Running`. -/
def RunInv (c : ServiceConfig) (svc : AnyService) (st : ServiceStatus) : Prop :=
  svc.config = c ∧ ∀ pid, st = .running pid → svc.Started

theorem runInv_start {c : ServiceConfig} {svc svc' : AnyService} {st : ServiceStatus}
    {env : Externals} {r : Except String ℕ} (h : RunInv c svc st)
    (hr : ManagedService.start svc env = (r, svc')) : RunInv c svc' (statusOfStart r) := by
  obtain ⟨hcfg, hstarted⟩ := start_spec svc env
  rw [hr] at hcfg hstarted
  refine ⟨hcfg.trans h.1, fun pid hpid => hstarted pid ?_⟩
  cases r with
  | ok pid' => rw [ServiceStatus.running.inj hpid]
  | error e => exact nomatch hpid

theorem runInv_stop {c : ServiceConfig} {svc svc' : AnyService} {st : ServiceStatus}
    {env : Externals} {r : Except String Unit} (h : RunInv c svc st)
    (hr : ManagedService.stop svc env = (r, svc')) : RunInv c svc' (statusOfStop st r) := by
  obtain ⟨hcfg, -, hfail⟩ := stop_spec svc env
  rw [hr] at hcfg hfail
  refine ⟨hcfg.trans h.1, ?_⟩
  cases r with
  | ok u => exact fun _ hpid => nomatch hpid
  | error e =>
      obtain rfl : svc' = svc := hfail e rfl
      exact h.2

/-- After any history of commands, a service that was registered as built and available satisfies
    its invariant. -/
theorem runInv_serveAll (regs : List (Registration AnyService)) (id : ServiceId)
    (c : ServiceConfig) (hreg : lastRegistration regs id = some ⟨id, c.build, true⟩)
    (cmds : List (Command Externals)) :
    (serveAll (registerAll regs) cmds).sup.Keeps fun id' svc st => id' = id → RunInv c svc st := by
  have h0 : (registerAll regs).Keeps fun id' svc st => id' = id → RunInv c svc st := by
    refine registerAll_keeps regs ?_
    rintro id' r hr rfl
    obtain rfl := Option.some.inj (hreg.symm.trans hr)
    refine ⟨?_, fun _ hpid => nomatch hpid⟩
    cases c <;> rfl
  exact h0.serveAll (fun _ _ _ _ _ _ h _ hr hid => runInv_start (h hid) hr)
    (fun _ _ _ _ _ _ h _ hr hid => runInv_stop (h hid) hr) cmds

-- ── Restarting ───────────────────────────────────────────────────────────────

/-- Everything external succeeds. -/
def fairWeather (drained : Bool) : Externals where
  readFile   := fun _ => .ok ()
  fileExists := fun _ => true
  caCerts    := []
  spawn      := .ok (some 1234)
  bind       := .ok ()
  localAddr  := .ok ()
  tlsConfig  := .ok ()
  tryWait    := .ok false
  drained    := drained

theorem fairWeather_allSucceed (drained : Bool) : (fairWeather drained).AllSucceed :=
  ⟨fun _ => rfl, fun _ => rfl, fun _ h => (nomatch h), ⟨1234, rfl⟩, rfl, rfl, rfl⟩

/-- The default configuration of the HTTP gateway. -/
def defaultHttp : ServiceConfig := .gateway (.fromEnv fun _ => none)

end HamletService
