import Hamlet.Lib.UnixPathProofs

/-!
# Configuration from the environment, and the views of the local broker

Every component of a hamlet node reads its settings from environment variables, each with its
own default and its own fallback for a value that does not parse. Three of them describe the
SAME local broker:

* `MqttBrokerageConfig` — the broker the node runs; `configText` is the `mosquitto.conf` that
  `write_config` emits for it, with one `listener` line;
* `MqttClientConfig` — the node's own client of that broker;
* `buildBrokerageInfo` — what a device is told after its handshake.

`ViewsAgree` says that they describe one listener. The headline is `viewsAgree_iff`: they do
exactly when `MQTT_TLS_ENABLED` is set (the two readers of that variable have OPPOSITE defaults)
and no path written into the file smuggles in a listener line of its own.
-/

namespace HamletConfig

open RustText UnixPath

/-- The process environment: `std::env::var` for every name. -/
abbrev Env := String → Option String

/-- `std::env::var(name).unwrap_or_else(|_| default)`. -/
def Env.varOr (env : Env) (name default : String) : String := (env name).getD default

/-- A switch: the trimmed value compared with `true`, ignoring ASCII case. -/
def Env.flag (env : Env) (name default : String) : Bool :=
  eqIgnoreAsciiCase (trim (env.varOr name default)) "true"

/-- A port: the value as it stands, or the fallback when it is not a `u16`. -/
def Env.port (env : Env) (name default : String) (fallback : ℕ) : ℕ :=
  (parseU16 (env.varOr name default)).getD fallback

-- ── The MQTT client ──────────────────────────────────────────────────────────

/-- How an MQTT client authenticates its transport to a broker. -/
inductive MqttTlsMode where
  | none
  | serverOnly
  | mutual
  deriving DecidableEq, Repr

structure MqttClientConfig where
  clientId : String
  host     : String
  port     : ℕ
  tlsMode  : MqttTlsMode
  cafile   : Option String
  certfile : Option String
  keyfile  : Option String
  username : String
  password : String
  deriving DecidableEq, Repr

/-- `MqttClientConfig::from_env`: TLS is off unless the variable says otherwise. -/
def MqttClientConfig.fromEnv (env : Env) (configDir : String) : MqttClientConfig :=
  let mutual_ := env.flag "MQTT_TLS_ENABLED" "false"
  { clientId := env.varOr "MQTT_CLIENT_ID" "hamlet"
    host     := "localhost"
    port     := if mutual_ then env.port "MQTTS_PORT" "8883" 8883
                else env.port "MQTT_PORT" "1883" 1883
    tlsMode  := if mutual_ then .mutual else .none
    cafile   := some (join configDir (env.varOr "MQTT_CAFILE" "certs/ca.crt"))
    certfile := some (join configDir (env.varOr "MQTT_CLIENT_CERTFILE" "certs/client.crt"))
    keyfile  := some (join configDir (env.varOr "MQTT_CLIENT_KEYFILE" "certs/client.key"))
    username := env.varOr "MQTT_USERNAME" "placenet"
    password := env.varOr "MQTT_PASSWORD" "changeme" }

-- ── The MQTT broker ──────────────────────────────────────────────────────────

structure MqttBrokerageConfig where
  port         : ℕ
  clientId     : String
  configFile   : String
  passwordFile : String
  username     : String
  password     : String
  tlsEnabled   : Bool
  mqttsPort    : ℕ
  cafile       : String
  certfile     : String
  keyfile      : String
  deriving DecidableEq, Repr

/-- `MqttBrokerageConfig::from_env`: TLS is on unless the variable says otherwise. -/
def MqttBrokerageConfig.fromEnv (env : Env) (configDir : String) : MqttBrokerageConfig where
  port         := env.port "MQTT_PORT" "1883" 1883
  mqttsPort    := env.port "MQTTS_PORT" "8883" 8883
  clientId     := env.varOr "MQTT_CLIENT_ID" "hamlet"
  username     := env.varOr "MQTT_USERNAME" "placenet"
  password     := env.varOr "MQTT_PASSWORD" "changeme"
  tlsEnabled   := env.flag "MQTT_TLS_ENABLED" "true"
  cafile       := join configDir (env.varOr "MQTT_CAFILE" "certs/ca.crt")
  certfile     := join configDir (env.varOr "MQTT_CERTFILE" "certs/broker.crt")
  keyfile      := join configDir (env.varOr "MQTT_KEYFILE" "certs/broker.key")
  configFile   := join configDir "mosquitto.conf"
  passwordFile := join configDir "passwd"

/-- One line of a generated file. -/
def line (text : String) : String := text ++ "\n"

/-- The contents of `mosquitto.conf`. With TLS the plain listener is omitted. -/
def MqttBrokerageConfig.configText (c : MqttBrokerageConfig) : String :=
  line "# Auto-generated by hamlet" ++
  line "persistence false" ++
  line "log_dest stderr" ++ line "" ++
  if c.tlsEnabled then
    line ("listener " ++ toString c.mqttsPort) ++
    line "protocol mqtt" ++
    line ("cafile " ++ c.cafile) ++
    line ("certfile " ++ c.certfile) ++
    line ("keyfile " ++ c.keyfile) ++
    line "tls_version tlsv1.2" ++
    line "require_certificate true" ++
    line "use_identity_as_username true"
  else
    line ("listener " ++ toString c.port) ++
    line "allow_anonymous false" ++
    line ("password_file " ++ c.passwordFile)

/-- `write_config`: the file written and its contents, or the first error. `createDirAll` and
    `write` are the answers of the file system. -/
def MqttBrokerageConfig.writeConfig (c : MqttBrokerageConfig)
    (createDirAll write : String → Except String Unit) : Except String (String × String) :=
  match parent c.configFile with
  | none => .error "config_file has no parent directory"
  | some dir =>
      match createDirAll dir with
      | .error e => .error ("Failed to create config dir: " ++ e)
      | .ok () =>
          match write c.configFile with
          | .error e => .error ("Failed to write mosquitto.conf: " ++ e)
          | .ok () => .ok (c.configFile, c.configText)

/-- The user that `register_onto` seeds into the password file: with TLS the client
    certificate is the credential and no user is written. -/
def MqttBrokerageConfig.seededUser (c : MqttBrokerageConfig) : Option (String × String) :=
  if c.tlsEnabled then none else some (c.username, c.password)

/-- What a device is told about the broker after a handshake. -/
structure MqttBrokerageInfo where
  address   : String
  port      : ℕ
  caCertPem : String
  deriving DecidableEq, Repr

/-- `build_brokerage_info`. -/
def buildBrokerageInfo (c : MqttBrokerageConfig) (caCertPem : String) : MqttBrokerageInfo where
  address   := "localhost"
  port      := if c.tlsEnabled then c.mqttsPort else c.port
  caCertPem := caCertPem

-- ── The other sections of the configuration ──────────────────────────────────

structure HttpConfig where
  host         : String
  port         : ℕ
  tlsEnabled   : Bool
  upstreamPort : ℕ
  deriving DecidableEq, Repr

/-- `HttpConfig::from_env`. -/
def HttpConfig.fromEnv (env : Env) : HttpConfig where
  host         := env.varOr "HTTP_HOST" "0.0.0.0"
  port         := env.port "HTTP_PORT" "8080" 8080
  tlsEnabled   := env.flag "HTTP_TLS_ENABLED" "true"
  upstreamPort := env.port "HTTP_UPSTREAM_PORT" "3000" 3000

structure BeaconManagementConfig where
  useJitter           : Bool
  broadcastInterval   : ℕ
  keyRotationInterval : ℕ
  keyExpiry           : ℕ
  deriving DecidableEq, Repr

/-- `BeaconManagementConfig::from_env`: these numbers are trimmed before they are parsed. -/
def BeaconManagementConfig.fromEnv (env : Env) : BeaconManagementConfig where
  useJitter           := env.flag "USE_NETWORK_JITTER" "false"
  broadcastInterval   := (parseU16 (trim (env.varOr "BROADCAST_INTERVAL" "60"))).getD 60
  keyRotationInterval := (parseU32 (trim (env.varOr "KEY_ROTATION_INTERVAL" "3600"))).getD 3600
  keyExpiry           := (parseU32 (trim (env.varOr "KEY_EXPIRY" "7200"))).getD 7200

structure GatewayRegistrationConfig where
  serverUrl    : String
  gatewayUrl   : Option String
  username     : String
  password     : String
  brokerCafile : Option String
  brokerTls    : Bool
  deriving DecidableEq, Repr

/-- `GatewayRegistrationConfig::from_env`. -/
def GatewayRegistrationConfig.fromEnv (env : Env) : GatewayRegistrationConfig where
  serverUrl    := env.varOr "PLACENET_SERVER_URL" "http://localhost:8080"
  gatewayUrl   := env "PLACENET_GATEWAY_URL"
  username     := env.varOr "PLACENET_GATEWAY_USERNAME" ""
  password     := env.varOr "PLACENET_GATEWAY_PASSWORD" ""
  brokerCafile := env "PLACENET_GATEWAY_MQTT_CAFILE"
  brokerTls    := ((env "PLACENET_GATEWAY_MQTT_TLS").map
                    fun v => eqIgnoreAsciiCase (trim v) "true").getD true

structure Config where
  mqttBrokerage       : MqttBrokerageConfig
  mqttClient          : MqttClientConfig
  http                : HttpConfig
  gatewayRegistration : GatewayRegistrationConfig
  beaconManagement    : BeaconManagementConfig
  configDir           : String
  deriving DecidableEq, Repr

/-- The configuration directory: a relative one is taken from the working directory. -/
def configDirOf (env : Env) (currentDir : String) : String :=
  let raw := env.varOr "PLACENET_CONFIG_DIR" "config"
  if isAbsolute raw then raw else join currentDir raw

/-- `Config::from_env`. -/
def Config.fromEnv (env : Env) (currentDir : String) : Config :=
  let dir := configDirOf env currentDir
  { mqttBrokerage       := .fromEnv env dir
    mqttClient          := .fromEnv env dir
    http                := .fromEnv env
    gatewayRegistration := .fromEnv env
    beaconManagement    := .fromEnv env
    configDir           := dir }

-- ── Reading the listener line back ───────────────────────────────────────────

/-- The ports of the `listener` lines of a configuration file, as written. -/
def listenerPorts (text : String) : List String :=
  (splitLines text).filterMap (stripPrefix · "listener ")

/-- The listener lines that a path brings along when it is written behind a keyword: those of
    its own lines after the first. -/
def injectedListeners (path : String) : List String :=
  (splitLines path).tail.filterMap (stripPrefix · "listener ")

/-- The paths that `write_config` writes into the file. -/
def MqttBrokerageConfig.writtenPaths (c : MqttBrokerageConfig) : List String :=
  if c.tlsEnabled then [c.cafile, c.certfile, c.keyfile] else [c.passwordFile]

/-- A line of the file contributes its own listener lines. -/
theorem listenerPorts_line (text rest : String) :
    listenerPorts (line text ++ rest) = listenerPorts text ++ listenerPorts rest := by
  rw [listenerPorts, line, splitLines_newline, List.filterMap_append]
  rfl

/-- Two texts that start with different characters are different. -/
private theorem append_ne_of_head {s t u v : String} {c d : Char} (hs : s.toList.head? = some c)
    (ht : t.toList.head? = some d) (hcd : c ≠ d) : s ++ u ≠ t ++ v := by
  intro h
  have h' : ((s ++ u).toList).head? = ((t ++ v).toList).head? := by rw [h]
  rw [String.toList_append, String.toList_append, List.head?_append, List.head?_append, hs, ht]
    at h'
  exact hcd (by simpa using h')

/-- A keyword other than `listener` in front of a path: only the injected lines remain. -/
theorem listenerPorts_keyword (key : String) {c : Char} (path : String)
    (hhead : key.toList.head? = some c) (hc : c ≠ 'l') (hline : '\n' ∉ key.toList) :
    listenerPorts (key ++ path) = injectedListeners path := by
  have hnone : stripPrefix (key ++ (splitLines path).headD "") "listener " = none := by
    rw [Option.eq_none_iff_forall_ne_some]
    intro t ht
    exact append_ne_of_head hhead (show "listener ".toList.head? = some 'l' from rfl) hc
      (stripPrefix_eq_some.mp ht)
  rw [listenerPorts, splitLines_append hline, List.filterMap_cons, hnone]
  rfl

/-- The listener directive itself. -/
theorem listenerPorts_listener (port : ℕ) :
    listenerPorts ("listener " ++ toString port) = [toString port] := by
  have hline : '\n' ∉ ("listener " ++ toString port).toList := by
    rw [String.toList_append, List.mem_append, not_or]
    exact ⟨by decide, notMem_toString (by decide) port⟩
  rw [listenerPorts, splitLines_of_notMem hline, List.filterMap_cons,
    stripPrefix_eq_some.mpr rfl]
  rfl

/-- **The listener lines of the emitted file**: the port that `build_brokerage_info` hands out,
    then whatever the written paths smuggle in. -/
theorem listenerPorts_configText (c : MqttBrokerageConfig) (pem : String) :
    listenerPorts c.configText =
      toString (buildBrokerageInfo c pem).port :: c.writtenPaths.flatMap injectedListeners := by
  have hcomment : listenerPorts "# Auto-generated by hamlet" = [] := by decide
  have hpers : listenerPorts "persistence false" = [] := by decide
  have hlog : listenerPorts "log_dest stderr" = [] := by decide
  have hempty : listenerPorts "" = [] := by decide
  -- the last line is followed by the empty text
  have hlast : ∀ text : String, listenerPorts (line text) = listenerPorts text := by
    intro text
    rw [← String.append_empty (s := line text), listenerPorts_line, hempty, List.append_nil]
  rw [MqttBrokerageConfig.configText, MqttBrokerageConfig.writtenPaths, buildBrokerageInfo]
  simp only [String.append_assoc, listenerPorts_line, hcomment, hpers, hlog, hempty,
    List.nil_append]
  by_cases htls : c.tlsEnabled = true
  · have hcafile := listenerPorts_keyword "cafile " c.cafile rfl (by decide) (by decide)
    have hcert := listenerPorts_keyword "certfile " c.certfile rfl (by decide)
      (by decide)
    have hkey := listenerPorts_keyword "keyfile " c.keyfile rfl (by decide) (by decide)
    have hrest : listenerPorts "protocol mqtt" = [] ∧ listenerPorts "tls_version tlsv1.2" = [] ∧
        listenerPorts "require_certificate true" = [] ∧
        listenerPorts "use_identity_as_username true" = [] := by decide
    simp only [htls, if_true, listenerPorts_line, hlast, listenerPorts_listener, hcafile, hcert,
      hkey, hrest.1, hrest.2.1, hrest.2.2.1, hrest.2.2.2, List.nil_append, List.append_nil,
      List.flatMap_cons, List.flatMap_nil, List.cons_append]
  · have hpass := listenerPorts_keyword "password_file " c.passwordFile rfl (by decide)
      (by decide)
    have hanon : listenerPorts "allow_anonymous false" = [] := by decide
    simp only [htls, if_false, Bool.false_eq_true, listenerPorts_line, hlast,
      listenerPorts_listener, hpass, hanon, List.nil_append, List.append_nil,
      List.flatMap_cons, List.flatMap_nil, List.cons_append]

/-- A file that `write_config` reports as written holds `configText`. -/
theorem writeConfig_text {c : MqttBrokerageConfig}
    {createDirAll write : String → Except String Unit} {file : String × String}
    (h : c.writeConfig createDirAll write = .ok file) :
    file = (c.configFile, c.configText) := by
  rw [MqttBrokerageConfig.writeConfig] at h
  split at h
  · exact nomatch h
  · split at h
    · exact nomatch h
    · split at h
      · exact nomatch h
      · exact (Except.ok.inj h).symm

-- ── The views of the local broker ────────────────────────────────────────────

/-- The broker, the node's client and the devices speak of one listener. -/
structure ViewsAgree (b : MqttBrokerageConfig) (c : MqttClientConfig) : Prop where
  tls         : c.tlsMode = .mutual ↔ b.tlsEnabled = true
  listener    : listenerPorts b.configText = [toString c.port]
  devices     : ∀ caCertPem, (buildBrokerageInfo b caCertPem).port = c.port
  credentials : b.tlsEnabled = false → b.seededUser = some (c.username, c.password)

/-- The client speaks TLS exactly when its reading of the switch is on. -/
theorem fromEnv_tlsMode (env : Env) (dir : String) :
    (MqttClientConfig.fromEnv env dir).tlsMode = .mutual ↔
      env.flag "MQTT_TLS_ENABLED" "false" = true := by
  rw [MqttClientConfig.fromEnv]
  by_cases h : env.flag "MQTT_TLS_ENABLED" "false" = true
  · simp [h]
  · simp [h]

/-- A variable that is set hides the default of every reader. -/
theorem flag_of_isSome {env : Env} {name : String} (h : (env name).isSome) (d d' : String) :
    env.flag name d = env.flag name d' := by
  obtain ⟨v, hv⟩ := Option.isSome_iff_exists.mp h
  rw [Env.flag, Env.flag, Env.varOr, Env.varOr, hv]
  rfl

/-- **The local broker is described consistently exactly when** `MQTT_TLS_ENABLED` is set and
    no path written into `mosquitto.conf` carries a listener line of its own. -/
theorem viewsAgree_iff (env : Env) (currentDir : String) :
    ViewsAgree (Config.fromEnv env currentDir).mqttBrokerage
        (Config.fromEnv env currentDir).mqttClient ↔
      (env "MQTT_TLS_ENABLED").isSome ∧
        ∀ path ∈ (Config.fromEnv env currentDir).mqttBrokerage.writtenPaths,
          injectedListeners path = [] := by
  set dir := configDirOf env currentDir with hdir
  change ViewsAgree (MqttBrokerageConfig.fromEnv env dir) (MqttClientConfig.fromEnv env dir) ↔
    _ ∧ ∀ path ∈ (MqttBrokerageConfig.fromEnv env dir).writtenPaths, injectedListeners path = []
  have hfile := listenerPorts_configText (MqttBrokerageConfig.fromEnv env dir)
  constructor
  · intro hv
    refine ⟨?_, ?_⟩
    · -- unset, the client reads `false` and the broker reads `true`
      by_contra hunset
      rw [Option.isSome_iff_ne_none, not_not] at hunset
      have hclient : env.flag "MQTT_TLS_ENABLED" "false" = false := by
        rw [Env.flag, Env.varOr, hunset]; decide
      have hbroker : env.flag "MQTT_TLS_ENABLED" "true" = true := by
        rw [Env.flag, Env.varOr, hunset]; decide
      have := (fromEnv_tlsMode env dir).mp (hv.tls.mpr hbroker)
      rw [hclient] at this
      exact Bool.noConfusion this
    · have hl := hv.listener
      rw [hfile "", List.cons.injEq] at hl
      exact List.flatMap_eq_nil_iff.mp hl.2
  · rintro ⟨hset, hpaths⟩
    have hflag := flag_of_isSome hset "false" "true"
    have hport : ∀ pem, (buildBrokerageInfo (MqttBrokerageConfig.fromEnv env dir) pem).port =
        (MqttClientConfig.fromEnv env dir).port := by
      intro pem
      rw [buildBrokerageInfo, MqttBrokerageConfig.fromEnv, MqttClientConfig.fromEnv, hflag]
    refine ⟨?_, ?_, hport, ?_⟩
    · rw [fromEnv_tlsMode, hflag]; rfl
    · rw [hfile "", hport "", List.flatMap_eq_nil_iff.mpr hpaths]
    · intro hoff
      rw [MqttBrokerageConfig.seededUser, if_neg (by rw [hoff]; exact Bool.false_ne_true)]
      rfl

/-- With nothing set the broker listens with TLS on 8883 and the client dials 1883 in the
    clear. -/
theorem views_disagree_when_unset :
    ¬ ViewsAgree (Config.fromEnv (fun _ => none) "/srv/hamlet").mqttBrokerage
        (Config.fromEnv (fun _ => none) "/srv/hamlet").mqttClient := by
  intro h
  exact absurd (h.tls.mpr (by decide)) (by decide)

end HamletConfig
