import Mathlib.Data.List.Nodup
import Hamlet.Lib.OverwriteProofs
import Hamlet.Lib.IpTextProofs
import Hamlet.RecoveryProofs

/-!
# Starting the node

`App::initialize` takes the configuration and brings the node up: it looks for the broker binary,
opens the CA, writes the TLS material, registers the services, starts broker and client, WAITS for
the client to be connected, and only then starts the HTTP gateway and the cloud gateway client. Some
failures end the process, others are only logged, and the wait has no timeout.

The model follows it step by step, with the file system as a map from resolved paths to texts and
what every external call answers as a field of `Io`; the services and the supervisor are those of
the other modules.

* `startup_outcome` — when the process exits, when it waits for ever, and otherwise the status of
  every service: the node that is only a client of its own broker never serves HTTP while the broker
  does not answer;
* `tls_material_iff` — the files that broker and client will read are written one after another to
  paths that come from five settings; each of them holds what was meant for it exactly when no two
  writes collide.
-/

namespace HamletStartup

open RustText UnixPath Overwrite
open HamletConfig HamletSupervisor HamletService HamletRecovery

-- ── Binaries on the host ─────────────────────────────────────────────────────

structure BinaryInfo where
  path : String
  deriving DecidableEq, Repr

/-- A snapshot of the binaries that were looked for. -/
structure ServiceCapabilities where
  binaries : List (String × Option BinaryInfo)

def ServiceCapabilities.isAvailable (s : ServiceCapabilities) (binary : String) : Bool :=
  match s.binaries.lookup binary with
  | some info => info.isSome
  | none => false

def ServiceCapabilities.binaryPath (s : ServiceCapabilities) (binary : String) : Option String :=
  (s.binaries.lookup binary).bind fun info => info.map BinaryInfo.path

/-- `detect_capabilities`; `which` answers with the output of the command, if it succeeded. -/
def detectCapabilities (which : String → Option String) (requiredBinaries : List String) :
    ServiceCapabilities where
  binaries := requiredBinaries.map fun name => (name, (which name).map fun out => ⟨trim out⟩)

-- ── The names in the broker's certificate ────────────────────────────────────

/-- `IpAddr::from_str` accepts the text. -/
def isIpAddr (s : String) : Bool := IpText.isIpv4 s.toList || IpText.isIpv6 s.toList

/-- `str::split(',')`. -/
def splitComma (s : String) : List String := (s.toList.splitOn ',').map String.ofList

/-- The fields `san_ips` and `san_hostnames` of `MqttBrokerageConfig`. -/
structure BrokerSans where
  sanIps       : List String
  sanHostnames : List String
  deriving DecidableEq, Repr

def BrokerSans.fromEnv (env : Env) : BrokerSans where
  sanIps       := ((splitComma (env.varOr "BROKER_SAN_IPS" "")).map trim).filter isIpAddr
  sanHostnames :=
    ((splitComma (env.varOr "BROKER_SAN_HOSTNAMES" "")).map trim).filter fun s =>
      decide (s ≠ "") && decide (s ≠ "localhost")

/-- A name that `Ia5String` can hold. -/
def isIa5 (s : String) : Bool := s.toList.all fun c => decide (c.toNat < 128)

inductive SanType where
  | ipAddress (ip : String)
  | dnsName (name : String)
  deriving DecidableEq, Repr

/-- The subject alternative names that `generate_broker_identity` puts into the certificate. -/
def subjectAltNames (sanIps sanHostnames : List String) : List SanType :=
  sanIps.map .ipAddress ++ (sanHostnames.filter isIa5).map .dnsName

-- ── What the outside answers ─────────────────────────────────────────────────

/-- What the external calls of `initialize` answer. -/
structure Io where
  which          : String → Option String
  /-- `CaService::register`. -/
  caRegister     : Except String Unit
  /-- `ca_cert_pem`, for the information that devices are given. -/
  caCertPem      : Except String String
  /-- `ca_cert_pem`, for the broker. -/
  brokerCaPem    : Except String String
  createDirAll   : String → Except String Unit
  write          : String → Except String Unit
  /-- `get_local_ips`. -/
  localIps       : List String
  /-- `generate_broker_identity`, by the names it is given. -/
  brokerIdentity : List SanType → Except String (String × String)
  /-- `ensure_node_identity`. -/
  nodeIdentity   : Except String (String × String)
  /-- A run of `mosquitto_passwd`: the password file it leaves. -/
  passwd         : String → String → Except String String
  /-- What the `start()` of each service meets. -/
  starts         : ServiceId → Externals
  /-- The broker accepts the client while `initialize` waits. -/
  connAck        : Bool

/-- The file system, by resolved path. -/
abbrev Disk := List String → Option String

/-- `tokio::fs::write`, with the text of its error. -/
def writeFile (io : Io) (failed path text : String) (disk : Disk) : Except String Disk :=
  match io.write path with
  | .error e => .error (failed ++ e)
  | .ok () => .ok (writeAll disk [(resolve path, text)])

/-- Creating the directory of a file, if it has one. -/
def createParent (io : Io) (failed path : String) : Except String Unit :=
  match parent path with
  | none => .ok ()
  | some dir =>
      match io.createDirAll dir with
      | .error e => .error (failed ++ e)
      | .ok () => .ok ()

/-- The names the broker is certified under: the configured addresses or else those of the host, and
    `localhost` before the configured names. -/
def brokerNames (sans : BrokerSans) (io : Io) : List SanType :=
  subjectAltNames (if sans.sanIps.isEmpty then io.localIps else sans.sanIps)
    ("localhost" :: sans.sanHostnames)

/-- `provision_mqtt_broker_cert`. -/
def provisionMqttBrokerCert (c : MqttBrokerageConfig) (sans : BrokerSans) (io : Io) (disk : Disk) :
    Except String Disk := do
  createParent io "Failed to create broker cert dir: " c.certfile
  let caCertPem ← io.brokerCaPem
  let disk ← writeFile io "Failed to write broker CA cert: " c.cafile caCertPem disk
  let (certPem, keyPem) ← io.brokerIdentity (brokerNames sans io)
  let disk ← writeFile io "Failed to write broker cert: " c.certfile certPem disk
  writeFile io "Failed to write broker key: " c.keyfile keyPem disk

/-- `provision_node_identity`. -/
def provisionNodeIdentity (c : MqttClientConfig) (io : Io) (disk : Disk) : Except String Disk := do
  let certfile ← required c.certfile "provision_node_identity requires a client cert path"
  let keyfile ← required c.keyfile "provision_node_identity requires a client key path"
  let (certPem, keyPem) ← io.nodeIdentity
  createParent io "Failed to create cert dir: " certfile
  let disk ← writeFile io "Failed to write node cert: " certfile certPem disk
  writeFile io "Failed to write node key: " keyfile keyPem disk

/-- `set_password`, as `register_onto` of the broker calls it: a failure is only logged. -/
def seedPassword (c : MqttBrokerageConfig) (caps : ServiceCapabilities) (io : Io) (disk : Disk) :
    Disk :=
  match c.seededUser, caps.binaryPath "mosquitto_passwd" with
  | some (username, password), some _ =>
      match io.passwd username password with
      | .ok text => writeAll disk [(resolve c.passwordFile, text)]
      | .error _ => disk
  | _, _ => disk

/-- What `write_config` has written, if it succeeded. -/
def configWrites (c : MqttBrokerageConfig) (io : Io) : List (List String × String) :=
  match c.writeConfig io.createDirAll io.write with
  | .ok (path, text) => [(resolve path, text)]
  | .error _ => []

/-- The files that `register_onto` of the broker leaves: failures are only logged. -/
def registerBroker (c : MqttBrokerageConfig) (caps : ServiceCapabilities) (io : Io)
    (disk : Disk) : Disk :=
  if caps.isAvailable "mosquitto" then seedPassword c caps io (writeAll disk (configWrites c io))
  else disk

-- ── `App::initialize` ────────────────────────────────────────────────────────

/-- The binaries the node looks for. -/
def capabilities (io : Io) : ServiceCapabilities :=
  detectCapabilities io.which ["mosquitto", "mosquitto_passwd"]

/-- The broker can be run on this host. -/
def brokerAvailable (io : Io) : Bool := (capabilities io).isAvailable "mosquitto"

/-- Up to `spawn`: the steps whose failure ends the process. -/
def prepare (c : Config) (sans : BrokerSans) (io : Io) (disk : Disk) : Except String Disk := do
  io.caRegister.mapError ("Failed to initialise CA: " ++ ·)
  let _ ← io.caCertPem.mapError ("Failed to retrieve CA cert PEM: " ++ ·)
  let disk ←
    if c.mqttBrokerage.tlsEnabled then provisionMqttBrokerCert c.mqttBrokerage sans io disk
    else .ok disk
  let disk := registerBroker c.mqttBrokerage (capabilities io) io disk
  if c.mqttClient.tlsMode = .mutual then provisionNodeIdentity c.mqttClient io disk else .ok disk

/-- `register_onto` of the cloud gateway client: nothing is registered without a URL and
    credentials. -/
def gatewayMqttConfig (c : GatewayRegistrationConfig) : Option GatewayMqttConfig :=
  match c.gatewayUrl with
  | none => none
  | some url =>
      if c.username = "" ∨ c.password = "" then none
      else some ⟨url, c.username, c.password, c.brokerCafile, c.brokerTls⟩

/-- The registrations, in order. The client is as available as the broker. -/
def registrations (c : Config) (available : Bool) : List (Registration AnyService) :=
  [⟨.mosquitto, .mosquitto (.new c.mqttBrokerage), available⟩,
    ⟨.gateway, .gateway (.new c.http), true⟩,
    ⟨.mqttClient, .mqttClient (.new c.mqttClient), available⟩] ++
  ((gatewayMqttConfig c.gatewayRegistration).map fun cfg =>
    (⟨.gatewayMqttClient, .gatewayMqtt (.new cfg), true⟩ : Registration AnyService)).toList

/-- `start_mosquitto_brokerage` and `start_mqtt_client`. -/
def brokerStarts (io : Io) : List (Command Externals) :=
  if brokerAvailable io then
    [.start .mosquitto (io.starts .mosquitto), .start .mqttClient (io.starts .mqttClient)]
  else []

/-- `start_gateway` and `start_gateway_mqtt`. -/
def gatewayStarts (c : Config) (io : Io) : List (Command Externals) :=
  .start .gateway (io.starts .gateway) ::
    if (gatewayMqttConfig c.gatewayRegistration).isSome then
      [.start .gatewayMqttClient (io.starts .gatewayMqttClient)]
    else []

/-- `mqtt_connected_rx.await`: resolved, or pending for ever. The sender is still in the service, or
    it went into the event loop, which fires it on the first ConnAck, or it was dropped with a start
    that failed. -/
def awaitConnected (io : Io) (sup : Supervisor AnyService) : Option Bool :=
  match sup.services .mqttClient with
  | some (.mqttClient s) =>
      if s.connectedTx then none
      else if s.shutdownTx then (if io.connAck then some true else none)
      else some false
  | _ => some false

inductive Outcome where
  /-- `std::process::exit(1)`, with the error that was logged. -/
  | exit (message : String)
  /-- Suspended on `connected_rx`. -/
  | waiting (sup : Supervisor AnyService) (disk : Disk)
  | ready (sup : Supervisor AnyService) (disk : Disk)

/-- `App::initialize`, to its end or to where it stays. -/
def initializeApp (c : Config) (sans : BrokerSans) (io : Io) (disk : Disk) : Outcome :=
  match prepare c sans io disk with
  | .error message => .exit message
  | .ok disk =>
      let started :=
        (serveAll (registerAll (registrations c (brokerAvailable io))) (brokerStarts io)).sup
      if brokerAvailable io && (awaitConnected io started).isNone then .waiting started disk
      else .ready (serveAll started (gatewayStarts c io)).sup disk

-- ── The statuses after the starts ────────────────────────────────────────────

/-- The status of a service that is available with the broker, after its start. -/
def withBroker (io : Io) (r : Except String ℕ) : ServiceStatus :=
  if brokerAvailable io then statusOfStart r else .unavailable

/-- The statuses when `initialize` returns. -/
def readyStatuses (c : Config) (io : Io) : ServiceId → Option ServiceStatus
  | .mosquitto => some (withBroker io
      (MosquittoBrokerageService.start (.new c.mqttBrokerage) (io.starts .mosquitto)).1)
  | .mqttClient => some (withBroker io
      (MqttClientService.start (.new c.mqttClient) (io.starts .mqttClient)).1)
  | .gateway => some (statusOfStart (GatewayService.start (.new c.http) (io.starts .gateway)).1)
  | .gatewayMqttClient => (gatewayMqttConfig c.gatewayRegistration).map fun _ => .running 0
  | .cloudGateway => none

/-- The statuses while it waits for the client to be connected. -/
def waitingStatuses (c : Config) (io : Io) : ServiceId → Option ServiceStatus
  | .mosquitto => some (statusOfStart
      (MosquittoBrokerageService.start (.new c.mqttBrokerage) (io.starts .mosquitto)).1)
  | .mqttClient => some (.running 0)
  | .gateway => some .stopped
  | .gatewayMqttClient => (gatewayMqttConfig c.gatewayRegistration).map fun _ => .stopped
  | .cloudGateway => none

section Starts

variable {c : Config} {sans : BrokerSans} {io : Io} {disk : Disk}

/-- The supervisor before the first start. -/
def registered (c : Config) (io : Io) : Supervisor AnyService :=
  registerAll (registrations c (brokerAvailable io))

theorem registered_sameKeys : (registered c io).SameKeys :=
  (registerAll_keeps _ (P := fun _ _ _ => True) fun _ _ _ => trivial).same_keys

theorem registered_services (id : ServiceId) :
    (registered c io).services id =
      match id with
      | .mosquitto => some (.mosquitto (.new c.mqttBrokerage))
      | .mqttClient => some (.mqttClient (.new c.mqttClient))
      | .gateway => some (.gateway (.new c.http))
      | .gatewayMqttClient =>
          (gatewayMqttConfig c.gatewayRegistration).map fun cfg => .gatewayMqtt (.new cfg)
      | .cloudGateway => none := by
  rw [registered, registrations]
  cases gatewayMqttConfig c.gatewayRegistration <;> cases id <;> rfl

theorem registered_statuses (id : ServiceId) :
    (registered c io).statuses id =
      match id with
      | .mosquitto => some (if brokerAvailable io then .stopped else .unavailable)
      | .mqttClient => some (if brokerAvailable io then .stopped else .unavailable)
      | .gateway => some .stopped
      | .gatewayMqttClient => (gatewayMqttConfig c.gatewayRegistration).map fun _ => .stopped
      | .cloudGateway => none := by
  rw [registered, registrations]
  cases gatewayMqttConfig c.gatewayRegistration <;> cases id <;> rfl

/-- Starting a registered service that was not started yet. -/
theorem handleStart_stopped {sup : Supervisor AnyService} (hk : sup.SameKeys) {id : ServiceId}
    {svc : AnyService} (hst : sup.statuses id = some .stopped) (hsvc : sup.services id = some svc)
    (env : Externals) :
    (sup.handleStart id env).sup = sup.set id (ManagedService.start svc env).2
      (statusOfStart (ManagedService.start svc env).1) :=
  (handleStart_startable hk hst rfl hsvc env).2

/-- The same after another service was started. -/
theorem handleStart_stopped_set {sup : Supervisor AnyService} (hk : sup.SameKeys)
    {id id' : ServiceId} (hne : id ≠ id') {svc : AnyService}
    (hst : sup.statuses id = some .stopped) (hsvc : sup.services id = some svc) (env : Externals)
    (svc' : AnyService) (st' : ServiceStatus) :
    ((sup.set id' svc' st').handleStart id env).sup =
      (sup.set id' svc' st').set id (ManagedService.start svc env).2
        (statusOfStart (ManagedService.start svc env).1) := by
  have hst' : (sup.set id' svc' st').statuses id = some .stopped :=
    (Function.update_of_ne hne _ _).trans hst
  have hsvc' : (sup.set id' svc' st').services id = some svc :=
    (Function.update_of_ne hne _ _).trans hsvc
  exact handleStart_stopped (hk.set _ _ _) hst' hsvc' env

/-- The supervisor after broker and client were started, or not. -/
def started (c : Config) (io : Io) : Supervisor AnyService :=
  (serveAll (registered c io) (brokerStarts io)).sup

theorem started_of_available (h : brokerAvailable io = true) :
    started c io =
      ((registered c io).set .mosquitto
          (.mosquitto
            (MosquittoBrokerageService.start (.new c.mqttBrokerage) (io.starts .mosquitto)).2)
          (statusOfStart
            (MosquittoBrokerageService.start (.new c.mqttBrokerage) (io.starts .mosquitto)).1)).set
        .mqttClient
        (.mqttClient (MqttClientService.start (.new c.mqttClient) (io.starts .mqttClient)).2)
        (statusOfStart (MqttClientService.start (.new c.mqttClient) (io.starts .mqttClient)).1) := by
  have hstopped : ∀ id, id = .mosquitto ∨ id = .mqttClient →
      (registered c io).statuses id = some .stopped := by
    rintro id (rfl | rfl)
    · rw [registered_statuses, if_pos h]
    · rw [registered_statuses, if_pos h]
  have hbroker := handleStart_stopped registered_sameKeys (hstopped .mosquitto (.inl rfl))
    (registered_services .mosquitto) (io.starts .mosquitto)
  rw [started, brokerStarts, if_pos h]
  show (((registered c io).handleStart .mosquitto (io.starts .mosquitto)).sup.handleStart
    .mqttClient (io.starts .mqttClient)).sup = _
  have hne : ServiceId.mqttClient ≠ .mosquitto := by decide
  rw [hbroker, handleStart_stopped_set registered_sameKeys hne
    (hstopped .mqttClient (.inr rfl)) (registered_services .mqttClient)]
  rfl

theorem started_of_unavailable (h : brokerAvailable io = false) :
    started c io = registered c io := by
  rw [started, brokerStarts, h]
  rfl

theorem started_sameKeys : (started c io).SameKeys := by
  cases h : brokerAvailable io with
  | true =>
      rw [started_of_available h]
      exact (registered_sameKeys.set _ _ _).set _ _ _
  | false =>
      rw [started_of_unavailable h]
      exact registered_sameKeys

/-- The other two services are as they were registered. -/
theorem started_of_gateway {id : ServiceId} (hid : id = .gateway ∨ id = .gatewayMqttClient) :
    (started c io).statuses id = (registered c io).statuses id ∧
      (started c io).services id = (registered c io).services id := by
  cases h : brokerAvailable io with
  | true =>
      rw [started_of_available h]
      rcases hid with rfl | rfl <;> exact ⟨rfl, rfl⟩
  | false =>
      rw [started_of_unavailable h]
      exact ⟨rfl, rfl⟩

/-- The wait does not end exactly when the client was started and the broker does not answer. -/
theorem awaitConnected_eq_none (h : brokerAvailable io = true) :
    awaitConnected io (started c io) = none ↔
      buildMqttOpts c.mqttClient (io.starts .mqttClient) = .ok () ∧ io.connAck = false := by
  have hstart : MqttClientService.start (.new c.mqttClient) (io.starts .mqttClient) =
      match buildMqttOpts c.mqttClient (io.starts .mqttClient) with
      | .error e => (.error e, ⟨c.mqttClient, false, false, false, false, false⟩)
      | .ok () => (.ok 0, ⟨c.mqttClient, false, true, true, false, false⟩) := rfl
  have hsvc : (started c io).services .mqttClient = some (.mqttClient
      (MqttClientService.start (.new c.mqttClient) (io.starts .mqttClient)).2) := by
    rw [started_of_available h]
    rfl
  rw [awaitConnected, hsvc, hstart]
  cases buildMqttOpts c.mqttClient (io.starts .mqttClient) with
  | error e => simp
  | ok u => cases io.connAck <;> simp

/-- The supervisor after the gateway starts. -/
theorem gatewayStarts_statuses (id : ServiceId) :
    (serveAll (started c io) (gatewayStarts c io)).sup.statuses id = readyStatuses c io id := by
  have hgw : (started c io).statuses .gateway = some .stopped :=
    (started_of_gateway (.inl rfl)).1.trans (registered_statuses .gateway)
  have hgwsvc : (started c io).services .gateway = some (.gateway (.new c.http)) :=
    (started_of_gateway (.inl rfl)).2.trans (registered_services .gateway)
  have hfirst := handleStart_stopped started_sameKeys hgw hgwsvc (io.starts .gateway)
  -- what the starts before have left
  have hbefore : ∀ id, id ≠ .gateway → id ≠ .gatewayMqttClient →
      (started c io).statuses id = readyStatuses c io id := by
    intro id hne hne'
    cases h : brokerAvailable io with
    | true =>
        rw [started_of_available h]
        cases id with
        | gateway => exact absurd rfl hne
        | gatewayMqttClient => exact absurd rfl hne'
        | mosquitto => simp [readyStatuses, withBroker, h, Supervisor.set]
        | mqttClient => simp [readyStatuses, withBroker, h, Supervisor.set]
        | cloudGateway => exact registered_statuses .cloudGateway
    | false =>
        rw [started_of_unavailable h, registered_statuses]
        cases id with
        | gateway => exact absurd rfl hne
        | gatewayMqttClient => exact absurd rfl hne'
        | mosquitto => simp [readyStatuses, withBroker, h]
        | mqttClient => simp [readyStatuses, withBroker, h]
        | cloudGateway => rfl
  have hmqtt : (started c io).statuses .gatewayMqttClient =
      (gatewayMqttConfig c.gatewayRegistration).map fun _ => .stopped :=
    (started_of_gateway (.inr rfl)).1.trans (registered_statuses .gatewayMqttClient)
  have hmqttsvc : (started c io).services .gatewayMqttClient =
      (gatewayMqttConfig c.gatewayRegistration).map fun cfg => .gatewayMqtt (.new cfg) :=
    (started_of_gateway (.inr rfl)).2.trans (registered_services .gatewayMqttClient)
  rw [gatewayStarts]
  cases hcfg : gatewayMqttConfig c.gatewayRegistration with
  | none =>
      show ((started c io).handleStart .gateway (io.starts .gateway)).sup.statuses id = _
      rw [hfirst]
      cases id with
      | gateway => rfl
      | gatewayMqttClient =>
          rw [hcfg] at hmqtt
          refine Eq.trans hmqtt ?_
          rw [readyStatuses, hcfg]
          rfl
      | mosquitto => exact hbefore .mosquitto (by decide) (by decide)
      | mqttClient => exact hbefore .mqttClient (by decide) (by decide)
      | cloudGateway => exact hbefore .cloudGateway (by decide) (by decide)
  | some cfg =>
      show (((started c io).handleStart .gateway (io.starts .gateway)).sup.handleStart
        .gatewayMqttClient (io.starts .gatewayMqttClient)).sup.statuses id = _
      rw [hcfg] at hmqtt hmqttsvc
      have hne : ServiceId.gatewayMqttClient ≠ .gateway := by decide
      rw [hfirst, handleStart_stopped_set started_sameKeys hne hmqtt hmqttsvc]
      cases id with
      | gateway => rfl
      | gatewayMqttClient =>
          rw [readyStatuses, hcfg]
          rfl
      | mosquitto => exact hbefore .mosquitto (by decide) (by decide)
      | mqttClient => exact hbefore .mqttClient (by decide) (by decide)
      | cloudGateway => exact hbefore .cloudGateway (by decide) (by decide)

/-- The status of the gateway after its first start. -/
theorem gateway_running_iff (c : HttpConfig) (env : Externals) :
    statusOfStart (GatewayService.start (.new c) env).1 = .running 0 ↔
      Listens env ∧ (c.tlsEnabled = true → env.tlsConfig = .ok ()) := by
  show statusOfStart (GatewayService.start ⟨c, false, false, false⟩ env).1 = .running 0 ↔ _
  rw [gateway_start_idle, Listens]
  cases hbind : env.bind with
  | error e => simp [statusOfStart]
  | ok u =>
      cases haddr : env.localAddr with
      | error e => simp [statusOfStart]
      | ok u' =>
          cases htls : c.tlsEnabled with
          | false => simp [statusOfStart]
          | true => cases hcfg : env.tlsConfig <;> simp [statusOfStart]

/-- The client gets past its options: the wait depends on the broker. -/
def ClientStarts (c : Config) (io : Io) : Prop :=
  brokerAvailable io = true ∧ buildMqttOpts c.mqttClient (io.starts .mqttClient) = .ok ()

/-- The node serves HTTP. -/
def Serves : Outcome → Prop
  | .ready sup _ => sup.statuses .gateway = some (.running 0)
  | .waiting .. => False
  | .exit _ => False

/-- The statuses while `initialize` waits. -/
theorem started_statuses (h : ClientStarts c io) (id : ServiceId) :
    (started c io).statuses id = waitingStatuses c io id := by
  obtain ⟨havail, hopts⟩ := h
  have hstart : (MqttClientService.start (.new c.mqttClient) (io.starts .mqttClient)).1 = .ok 0 := by
    show (match buildMqttOpts c.mqttClient (io.starts .mqttClient) with
      | .error e => (_, _)
      | .ok () => (_, _)).1 = _
    rw [hopts]
  rw [started_of_available havail, hstart]
  cases id with
  | gateway => exact registered_statuses .gateway
  | gatewayMqttClient => exact registered_statuses .gatewayMqttClient
  | mosquitto => rfl
  | mqttClient => rfl
  | cloudGateway => exact registered_statuses .cloudGateway

/-- **How a start of the node ends.** The process exits exactly when one of the steps before
    `spawn` fails. Otherwise the node stays waiting, with the client started, the broker in the
    status of its own start and the HTTP gateway stopped, exactly when the client could be started
    and its broker does not answer; and else every service has the status of its own start, whatever
    became of the others. -/
theorem startup_outcome (c : Config) (sans : BrokerSans) (io : Io) (disk : Disk) :
    (match initializeApp c sans io disk with
      | .exit message => prepare c sans io disk = .error message
      | .waiting sup disk' =>
          prepare c sans io disk = .ok disk' ∧ ClientStarts c io ∧ io.connAck = false ∧
            sup.statuses = waitingStatuses c io
      | .ready sup disk' =>
          prepare c sans io disk = .ok disk' ∧ (ClientStarts c io → io.connAck = true) ∧
            sup.statuses = readyStatuses c io) ∧
      (Serves (initializeApp c sans io disk) ↔
        (∃ disk', prepare c sans io disk = .ok disk') ∧ (ClientStarts c io → io.connAck = true) ∧
          Listens (io.starts .gateway) ∧
          (c.http.tlsEnabled = true → (io.starts .gateway).tlsConfig = .ok ())) := by
  have hwait : (brokerAvailable io && (awaitConnected io (started c io)).isNone) = true ↔
      ClientStarts c io ∧ io.connAck = false := by
    rw [Bool.and_eq_true, Option.isNone_iff_eq_none, ClientStarts, and_assoc]
    exact and_congr_right awaitConnected_eq_none
  cases hprep : prepare c sans io disk with
  | error message => simp [initializeApp, hprep, Serves]
  | ok disk' =>
      by_cases hw : ClientStarts c io ∧ io.connAck = false
      · have hrun : initializeApp c sans io disk = .waiting (started c io) disk' := by
          rw [initializeApp, hprep]
          exact if_pos (hwait.mpr hw)
        rw [hrun]
        refine ⟨⟨rfl, hw.1, hw.2, funext (started_statuses hw.1)⟩, False.elim, ?_⟩
        rintro ⟨-, hack, -⟩
        exact Bool.false_ne_true (hw.2.symm.trans (hack hw.1))
      · have hrun : initializeApp c sans io disk =
            .ready (serveAll (started c io) (gatewayStarts c io)).sup disk' := by
          rw [initializeApp, hprep]
          exact if_neg (mt hwait.mp hw)
        have hack : ClientStarts c io → io.connAck = true := by
          intro hc
          by_contra hne
          exact hw ⟨hc, Bool.eq_false_iff.mpr hne⟩
        rw [hrun]
        refine ⟨⟨rfl, hack, funext gatewayStarts_statuses⟩, ?_⟩
        show (serveAll (started c io) (gatewayStarts c io)).sup.statuses .gateway =
          some (.running 0) ↔ _
        rw [gatewayStarts_statuses, readyStatuses, Option.some_inj, gateway_running_iff]
        exact ⟨fun h => ⟨⟨disk', rfl⟩, hack, h⟩, fun h => h.2.2⟩

end Starts

-- ── The TLS material ─────────────────────────────────────────────────────────

/-- What broker and client are to find in their files. -/
structure Material where
  caCert     : String
  brokerCert : String
  brokerKey  : String
  clientCert : String
  clientKey  : String

/-- It is what the CA answered. -/
structure Material.Issued (m : Material) (sans : BrokerSans) (io : Io) : Prop where
  ca     : io.brokerCaPem = .ok m.caCert
  broker : io.brokerIdentity (brokerNames sans io) = .ok (m.brokerCert, m.brokerKey)
  client : io.nodeIdentity = .ok (m.clientCert, m.clientKey)

/-- Every file that broker and client read holds its text. -/
structure Material.InFiles (m : Material) (c : Config) (io : Io) (disk : Disk) : Prop where
  ca         : disk (resolve c.mqttBrokerage.cafile) = some m.caCert
  brokerCert : disk (resolve c.mqttBrokerage.certfile) = some m.brokerCert
  brokerKey  : disk (resolve c.mqttBrokerage.keyfile) = some m.brokerKey
  config     : ∀ path text, brokerAvailable io = true →
    c.mqttBrokerage.writeConfig io.createDirAll io.write = .ok (path, text) →
      disk (resolve path) = some text
  clientCa   : ∀ path, c.mqttClient.cafile = some path → disk (resolve path) = some m.caCert
  clientCert : ∀ path, c.mqttClient.certfile = some path → disk (resolve path) = some m.clientCert
  clientKey  : ∀ path, c.mqttClient.keyfile = some path → disk (resolve path) = some m.clientKey

/-- The files that are written with TLS on, in order. -/
def Material.writes (m : Material) (c : Config) (io : Io) : List (List String × String) :=
  [(resolve c.mqttBrokerage.cafile, m.caCert), (resolve c.mqttBrokerage.certfile, m.brokerCert),
    (resolve c.mqttBrokerage.keyfile, m.brokerKey)] ++
  (if brokerAvailable io then configWrites c.mqttBrokerage io else []) ++
  (c.mqttClient.certfile.toList.map fun path => (resolve path, m.clientCert)) ++
  (c.mqttClient.keyfile.toList.map fun path => (resolve path, m.clientKey))

section Material

variable {c : Config} {sans : BrokerSans} {io : Io} {disk disk' : Disk}

/-- A computation that can fail returns when both of its halves do. -/
theorem bind_eq_ok {α β : Type} {x : Except String α} {f : α → Except String β} {b : β}
    (h : x >>= f = .ok b) : ∃ a, x = .ok a ∧ f a = .ok b := by
  cases x with
  | error e => cases h
  | ok a => exact ⟨a, rfl, h⟩

theorem writeFile_ok {failed path text : String}
    (h : writeFile io failed path text disk = .ok disk') :
    disk' = writeAll disk [(resolve path, text)] := by
  rw [writeFile] at h
  split at h
  · cases h
  · exact (Except.ok.inj h).symm

theorem provisionMqttBrokerCert_ok {b : MqttBrokerageConfig}
    (h : provisionMqttBrokerCert b sans io disk = .ok disk') :
    ∃ ca cert key, io.brokerCaPem = .ok ca ∧
      io.brokerIdentity (brokerNames sans io) = .ok (cert, key) ∧
      disk' = writeAll disk
        [(resolve b.cafile, ca), (resolve b.certfile, cert), (resolve b.keyfile, key)] := by
  obtain ⟨-, -, h⟩ := bind_eq_ok h
  obtain ⟨ca, hca, h⟩ := bind_eq_ok h
  obtain ⟨d₁, h₁, h⟩ := bind_eq_ok h
  obtain ⟨⟨cert, key⟩, hid, h⟩ := bind_eq_ok h
  obtain ⟨d₂, h₂, h⟩ := bind_eq_ok h
  obtain rfl := writeFile_ok h₁
  obtain rfl := writeFile_ok h₂
  exact ⟨ca, cert, key, hca, hid, writeFile_ok h⟩

theorem required_ok {file : Option String} {missing path : String}
    (h : required file missing = .ok path) : file = some path := by
  cases file with
  | none => cases h
  | some p => exact congrArg some (Except.ok.inj h)

theorem provisionNodeIdentity_ok {m : MqttClientConfig}
    (h : provisionNodeIdentity m io disk = .ok disk') :
    ∃ certfile keyfile cert key, m.certfile = some certfile ∧ m.keyfile = some keyfile ∧
      io.nodeIdentity = .ok (cert, key) ∧
      disk' = writeAll disk [(resolve certfile, cert), (resolve keyfile, key)] := by
  obtain ⟨certfile, hcert, h⟩ := bind_eq_ok h
  obtain ⟨keyfile, hkey, h⟩ := bind_eq_ok h
  obtain ⟨⟨cert, key⟩, hid, h⟩ := bind_eq_ok h
  obtain ⟨-, -, h⟩ := bind_eq_ok h
  obtain ⟨d, hd, h⟩ := bind_eq_ok h
  obtain rfl := writeFile_ok hd
  exact ⟨certfile, keyfile, cert, key, required_ok hcert, required_ok hkey, hid, writeFile_ok h⟩

/-- With TLS no password is seeded. -/
theorem registerBroker_tls {b : MqttBrokerageConfig} (htls : b.tlsEnabled = true) (disk : Disk) :
    registerBroker b (capabilities io) io disk =
      writeAll disk (if brokerAvailable io then configWrites b io else []) := by
  have hseed : b.seededUser = none := if_pos htls
  rw [registerBroker, ← brokerAvailable]
  by_cases h : brokerAvailable io = true
  · rw [if_pos h, if_pos h, seedPassword, hseed]
  · rw [if_neg h, if_neg h]
    rfl

/-- What the steps before `spawn` have written, with TLS on both sides. -/
theorem prepare_tls (hb : c.mqttBrokerage.tlsEnabled = true) (hc : c.mqttClient.tlsMode = .mutual)
    (h : prepare c sans io disk = .ok disk') :
    ∃ m : Material, m.Issued sans io ∧ disk' = writeAll disk (m.writes c io) := by
  obtain ⟨-, -, h⟩ := bind_eq_ok h
  obtain ⟨-, -, h⟩ := bind_eq_ok h
  simp only [if_pos hb, if_pos hc, registerBroker_tls hb] at h
  obtain ⟨d, hd, h⟩ := bind_eq_ok h
  obtain ⟨ca, cert, key, hca, hid, rfl⟩ := provisionMqttBrokerCert_ok hd
  obtain ⟨certfile, keyfile, ccert, ckey, hcf, hkf, hnode, rfl⟩ := provisionNodeIdentity_ok h
  refine ⟨⟨ca, cert, key, ccert, ckey⟩, ⟨hca, hid, hnode⟩, ?_⟩
  rw [← writeAll_append, ← writeAll_append]
  simp [Material.writes, hcf, hkf]

/-- The files are those that were written. -/
theorem inFiles_iff_inPlace (m : Material)
    (hca : c.mqttClient.cafile = some c.mqttBrokerage.cafile) (disk : Disk) :
    m.InFiles c io (writeAll disk (m.writes c io)) ↔ InPlace disk (m.writes c io) := by
  constructor
  · intro h w hw
    simp only [Material.writes, List.mem_append, List.mem_cons, List.not_mem_nil, or_false,
      List.mem_map, Option.mem_toList] at hw
    rcases hw with (((rfl | rfl | rfl) | hw) | ⟨path, hpath, rfl⟩) | ⟨path, hpath, rfl⟩
    · exact h.ca
    · exact h.brokerCert
    · exact h.brokerKey
    · split at hw
      · next havail =>
          rw [configWrites] at hw
          split at hw
          · next path text hwrite =>
              obtain rfl := List.mem_singleton.mp hw
              exact h.config path text havail hwrite
          · exact absurd hw List.not_mem_nil
      · exact absurd hw List.not_mem_nil
    · exact h.clientCert path hpath
    · exact h.clientKey path hpath
  · intro h
    have hmem : ∀ path text, (resolve path, text) ∈ m.writes c io →
        writeAll disk (m.writes c io) (resolve path) = some text :=
      fun path text hw => h (resolve path, text) hw
    have hcafile := hmem c.mqttBrokerage.cafile m.caCert (by simp [Material.writes])
    exact
      { ca := hcafile
        brokerCert := hmem c.mqttBrokerage.certfile m.brokerCert (by simp [Material.writes])
        brokerKey := hmem c.mqttBrokerage.keyfile m.brokerKey (by simp [Material.writes])
        config := by
          intro path text havail hwrite
          exact hmem path text (by simp [Material.writes, configWrites, havail, hwrite])
        clientCa := by
          intro path hpath
          obtain rfl := Option.some.inj (hca.symm.trans hpath)
          exact hcafile
        clientCert := fun path hpath => hmem path m.clientCert (by simp [Material.writes, hpath])
        clientKey := fun path hpath => hmem path m.clientKey (by simp [Material.writes, hpath]) }

/-- Where a path below the configuration directory leads. -/
theorem resolve_join {dir q : String} {names : List String}
    (h : components q = names.map Component.normal) :
    resolve (join dir q) = resolve dir ++ names := by
  have hwalk : ∀ base : List String, walk base (names.map Component.normal) = base ++ names := by
    clear h
    induction names with
    | nil => simp
    | cons name names ih =>
        intro base
        rw [List.map_cons, walk_cons, ih, enter, List.append_assoc]
        rfl
  rw [resolve, walk_join, h]
  exact hwalk (resolve dir)

/-- The settings that name the files. -/
def pathVariables : List String :=
  ["MQTT_CAFILE", "MQTT_CERTFILE", "MQTT_KEYFILE", "MQTT_CLIENT_CERTFILE", "MQTT_CLIENT_KEYFILE"]

/-- The files below the configuration directory, unless a setting says otherwise. -/
def defaultFiles : List (List String) :=
  [["certs", "ca.crt"], ["certs", "broker.crt"], ["certs", "broker.key"], ["mosquitto.conf"],
    ["certs", "client.crt"], ["certs", "client.key"]]

/-- Without settings for them the writes go to different files, whatever the directory. -/
theorem writes_default {env : Env} (hpaths : ∀ name ∈ pathVariables, env name = none)
    (currentDir : String) (m : Material) :
    (((m.writes (Config.fromEnv env currentDir) io).map Prod.fst).Sublist
      (defaultFiles.map (resolve (configDirOf env currentDir) ++ ·))) := by
  have hfile : ∀ name ∈ pathVariables, ∀ (d : String) (names : List String),
      components d = names.map Component.normal →
      resolve (join (configDirOf env currentDir) (env.varOr name d)) =
        resolve (configDirOf env currentDir) ++ names := by
    intro name hname d names h
    rw [Env.varOr, hpaths name hname]
    exact resolve_join h
  have hconf : (((if brokerAvailable io then
      configWrites (MqttBrokerageConfig.fromEnv env (configDirOf env currentDir)) io else []).map
        Prod.fst).Sublist [resolve (configDirOf env currentDir) ++ ["mosquitto.conf"]]) := by
    split
    · rw [configWrites]
      split
      · next path text hwrite =>
          obtain ⟨rfl, -⟩ := Prod.mk.inj (writeConfig_text hwrite)
          rw [← resolve_join (q := "mosquitto.conf") (by decide +kernel)]
          exact List.Sublist.refl _
      · exact List.nil_sublist _
    · exact List.nil_sublist _
  simp only [Material.writes, Config.fromEnv, MqttClientConfig.fromEnv, Option.toList_some,
    List.map_append, List.map_cons, List.map_nil, MqttBrokerageConfig.fromEnv] at hconf ⊢
  rw [hfile "MQTT_CAFILE" (by decide) "certs/ca.crt" ["certs", "ca.crt"] (by decide +kernel),
    hfile "MQTT_CERTFILE" (by decide) "certs/broker.crt" ["certs", "broker.crt"] (by decide +kernel),
    hfile "MQTT_KEYFILE" (by decide) "certs/broker.key" ["certs", "broker.key"] (by decide +kernel),
    hfile "MQTT_CLIENT_CERTFILE" (by decide) "certs/client.crt" ["certs", "client.crt"]
      (by decide +kernel),
    hfile "MQTT_CLIENT_KEYFILE" (by decide) "certs/client.key" ["certs", "client.key"]
      (by decide +kernel)]
  exact (((List.Sublist.refl [_, _, _]).append hconf).append (List.Sublist.refl [_])).append
    (List.Sublist.refl [_])

theorem defaultFiles_nodup (dir : List String) : (defaultFiles.map (dir ++ ·)).Nodup := by
  refine List.Nodup.map (fun _ _ h => List.append_cancel_left h) ?_
  decide

/-- Writes to different files agree. -/
theorem pairwise_of_nodup {ws : List (List String × String)} (h : (ws.map Prod.fst).Nodup) :
    ws.Pairwise fun v w => v.1 = w.1 → v.2 = w.2 :=
  (List.pairwise_map.mp h).imp fun hne heq => absurd heq hne

/-- **The TLS material of the node.** Once the switch is on and the steps before `spawn` have
    succeeded, the certificate of the broker names the host that the client dials, and all the files
    that broker and client read hold what the CA issued for them EXACTLY when no two of the writes
    put different texts into the same file. Without settings for the paths they never do, wherever
    the configuration directory is. -/
theorem tls_material_iff (env : Env) (currentDir : String) (io : Io) (disk disk' : Disk)
    (hon : env.flag "MQTT_TLS_ENABLED" "false" = true)
    (h : prepare (Config.fromEnv env currentDir) (BrokerSans.fromEnv env) io disk = .ok disk') :
    SanType.dnsName (Config.fromEnv env currentDir).mqttClient.host ∈
        brokerNames (BrokerSans.fromEnv env) io ∧
      ∃ m : Material, m.Issued (BrokerSans.fromEnv env) io ∧
        (m.InFiles (Config.fromEnv env currentDir) io disk' ↔
          (m.writes (Config.fromEnv env currentDir) io).Pairwise
            fun v w => v.1 = w.1 → v.2 = w.2) ∧
        ((∀ name ∈ pathVariables, env name = none) →
          m.InFiles (Config.fromEnv env currentDir) io disk') := by
  have hclient : (Config.fromEnv env currentDir).mqttClient.tlsMode = .mutual :=
    (fromEnv_tlsMode env _).mpr hon
  have hset : (env "MQTT_TLS_ENABLED").isSome := by
    cases hnone : env "MQTT_TLS_ENABLED" with
    | some v => rfl
    | none =>
        rw [Env.flag, Env.varOr, hnone] at hon
        exact absurd hon (by decide +kernel)
  have hbroker : (Config.fromEnv env currentDir).mqttBrokerage.tlsEnabled = true :=
    (flag_of_isSome hset "true" "false").trans hon
  obtain ⟨m, hissued, rfl⟩ := prepare_tls hbroker hclient h
  have hiff : m.InFiles (Config.fromEnv env currentDir) io
      (writeAll disk (m.writes (Config.fromEnv env currentDir) io)) ↔ _ :=
    (inFiles_iff_inPlace m rfl disk).trans (inPlace_iff disk _)
  refine ⟨?_, m, hissued, hiff, fun hpaths => hiff.mpr (pairwise_of_nodup ?_)⟩
  · refine List.mem_append_right _ (List.mem_map.mpr ⟨"localhost", ?_, rfl⟩)
    exact List.mem_filter.mpr ⟨List.mem_cons_self, by decide +kernel⟩
  · exact (writes_default hpaths currentDir m).nodup (defaultFiles_nodup _)

/-- A host without a broker, on which every call succeeds. -/
def calmIo : Io where
  which _          := none
  caRegister       := .ok ()
  caCertPem        := .ok "ca"
  brokerCaPem      := .ok "ca"
  createDirAll _   := .ok ()
  write _          := .ok ()
  localIps         := ["192.168.1.2"]
  brokerIdentity _ := .ok ("broker cert", "broker key")
  nodeIdentity     := .ok ("node cert", "node key")
  passwd _ _       := .ok ""
  starts _         := ⟨fun _ => .ok (), fun _ => true, [], .ok (some 1), .ok (), .ok (), .ok (),
    .ok false, true⟩
  connAck          := true

/-- Only the switch is set. -/
def tlsEnv : Env := fun name => if name = "MQTT_TLS_ENABLED" then some "true" else none

theorem tls_material_default :
    ∃ disk', prepare (Config.fromEnv tlsEnv "/srv") (BrokerSans.fromEnv tlsEnv) calmIo
        (fun _ => none) = .ok disk' ∧
      disk' ["srv", "config", "certs", "client.key"] = some "node key" := by
  have hok : (prepare (Config.fromEnv tlsEnv "/srv") (BrokerSans.fromEnv tlsEnv) calmIo
      (fun _ => none)).isOk = true := by decide +kernel
  cases h : prepare (Config.fromEnv tlsEnv "/srv") (BrokerSans.fromEnv tlsEnv) calmIo
      (fun _ => none) with
  | error e =>
      rw [h] at hok
      cases hok
  | ok disk' =>
      obtain ⟨-, m, hissued, -, hfiles⟩ := tls_material_iff tlsEnv "/srv" calmIo
        (fun _ => none) disk' (by decide +kernel) h
      have hkey : m.clientKey = "node key" :=
        (Prod.mk.inj (Except.ok.inj hissued.client)).2.symm
      have hfile := (hfiles (by decide +kernel)).clientKey _ rfl
      rw [hkey] at hfile
      exact ⟨disk', rfl, Eq.trans (congrArg disk' (by decide +kernel)) hfile⟩

end Material

end HamletStartup
