import Hamlet.ConfigProofs
import Hamlet.RegistryProofs
import Mathlib.Logic.Function.Basic

/-!
# The device handshake, and the file it writes

`handle_device_init` answers a device that introduces itself: it checks the request, lets the CA
sign the CSR, records the certificate in the certs directory, announces two topics to the message
loop and returns certificate, broker address and beacon id. The outcome of everything external —
reading and decoding the body, signing, the database, the file write, the fresh id — is a field of
`InitOutcome`.

The record of the certificate is a file named after the hostname the device claims, in the directory
of the broker's CA file. That directory also holds the node's OWN certificates and keys, and the
hostname is a text from the network. `certPath_safe_iff` says exactly for which hostnames the file
stays in the directory and is none of the node's files; `handshakes_safe_iff` says so of whole
sequences of handshakes.
-/

namespace HamletHandshake

open RustText UnixPath HamletConfig HamletRegistry HamletCloudGateway

-- ── Requests and responses ───────────────────────────────────────────────────

structure MdnsConfig where
  hostname : String
  port     : ℕ

/-- The payload of a device handshake. -/
structure DeviceInfo where
  address : String
  mdns    : MdnsConfig
  csrPem  : String

/-- A header value, and its text if it has one (`HeaderValue::to_str`). -/
abbrev HeaderValue := Option String

/-- What the handler reads of a request. `body` is the outcome of reading at most
    `PROXY_BODY_LIMIT` bytes, and inside it the outcome of decoding them as `DeviceInfo`. -/
structure Request where
  header : String → Option HeaderValue
  body   : Except String (Except String DeviceInfo)

inductive Body where
  | text (msg : String)
  | json (value : JsonValue)

structure Response where
  status : ℕ
  body   : Body

/-- `text_response`. -/
def textResponse (status : ℕ) (msg : String) : Response := ⟨status, .text msg⟩

/-- `json_response`. -/
def jsonResponse (status : ℕ) (value : JsonValue) : Response := ⟨status, .json value⟩

/-- `SUPPORTED_VERSION`. -/
def supportedVersion : String := "0.0.1"

/-- `HEADER_INIT`. -/
def headerInit : String := "x-placenet-init"

/-- The text before the last occurrence of a character (`&h[..h.rfind(c)?]`). -/
def beforeLast (s : String) (c : Char) : Option String :=
  let upTo := s.toList.rdropWhile (· != c)
  if upTo = [] then none else some (String.ofList upTo.dropLast)

/-- A `Host` header without its port; a bracketed address is taken whole. -/
def brokerHostOf (h : String) : String :=
  match beforeLast h ':' with
  | some host => if startsWith h "[" then h else host
  | none => h

structure DeviceInitRequest where
  version    : String
  brokerHost : String
  device     : DeviceInfo

/-- `DeviceInitRequest::process_request`. -/
def processRequest (req : Request) : Except Response DeviceInitRequest :=
  match (req.header headerInit).join with
  | none => .error (textResponse 400 "Invalid X-PlaceNet-Init header")
  | some version =>
      if version ≠ supportedVersion then .error (textResponse 400 "Unsupported version")
      else
        let brokerHost := (((req.header "host").join).map brokerHostOf).getD "localhost"
        match req.body with
        | .error _ => .error (textResponse 400 "Failed to read request body")
        | .ok (.error _) => .error (textResponse 422 "Invalid JSON body")
        | .ok (.ok device) => .ok { version := version, brokerHost := brokerHost, device := device }

-- ── The node ─────────────────────────────────────────────────────────────────

/-- The settings of the gateway service (`AppState`). -/
structure AppState where
  caReady       : Bool
  brokerageInfo : MqttBrokerageInfo
  brokerage     : Option MqttBrokerageConfig
  hasTopicTx    : Bool

/-- The gateway service of a node with the given configuration: the brokerage handle is there when
    mosquitto is. -/
def AppState.ofConfig (c : Config) (caCertPem : String) (brokerAvailable : Bool) : AppState where
  caReady       := true
  brokerageInfo := buildBrokerageInfo c.mqttBrokerage caCertPem
  brokerage     := if brokerAvailable then some c.mqttBrokerage else none
  hasTopicTx    := true

/-- A row of the table `device_certs`. -/
structure DeviceCert where
  certPem   : String
  issuedAt  : ℤ
  expiresAt : ℤ
  revoked   : Bool
  deriving DecidableEq

/-- What handshakes change: the table of device certificates, the files (by where their path
    leads), and the queue of announced topics. `written` lists the paths given to `fs::write`. -/
structure Node where
  deviceCerts : String → Option DeviceCert
  files       : List String → Option String
  topicQueue  : List TopicChannel
  written     : List String

/-- `mpsc::channel::<TopicChannel>(64)`. -/
def topicCapacity : ℕ := 64

/-- How a file write ends. One that fails may leave anything at its own path. -/
inductive WriteOutcome where
  | written
  | failed (error : String) (left : Option String)

/-- What the external calls of one handshake answer. -/
structure InitOutcome where
  /-- The CA's signature: the certificate and its validity. -/
  sign         : Except String (String × ℤ × ℤ)
  /-- The statement that stores the certificate. -/
  persist      : Except String Unit
  write        : WriteOutcome
  /-- The fresh UUID. -/
  beaconId     : String
  /-- The message loop has dropped its end of the topic channel. -/
  topicsClosed : Bool

/-- `CaService::sign_csr`: sign, then insert or update the device's row. -/
def signCsr (app : AppState) (node : Node) (deviceId : String) (o : InitOutcome) :
    Except String String × Node :=
  if !app.caReady then (.error "CA not initialised", node)
  else
    match o.sign with
    | .error e => (.error e, node)
    | .ok (certPem, issuedAt, expiresAt) =>
        match o.persist with
        | .error e => (.error ("Failed to persist device cert: " ++ e), node)
        | .ok () =>
            let row : DeviceCert := ⟨certPem, issuedAt, expiresAt, false⟩
            (.ok certPem,
              { node with deviceCerts := Function.update node.deviceCerts deviceId (some row) })

/-- Where `register_cert_identity` writes the certificate of a hostname. -/
def certPath (cafile hostname : String) : Option String :=
  (parent cafile).map fun certsDir => join certsDir (hostname ++ ".crt")

/-- `MqttBrokerageHandle::register_cert_identity`. -/
def registerCertIdentity (config : MqttBrokerageConfig) (node : Node) (hostname certPem : String)
    (w : WriteOutcome) : Except String Unit × Node :=
  match certPath config.cafile hostname with
  | none => (.error "cafile has no parent directory", node)
  | some path =>
      let store (contents : Option String) : Node :=
        { node with files := Function.update node.files (resolve path) contents
                    written := node.written ++ [path] }
      match w with
      | .written => (.ok (), store (some certPem))
      | .failed e left =>
          (.error ("Failed to write device cert '" ++ path ++ "': " ++ e), store left)

/-- `try_send` on the topic channel: a full or closed channel drops the value. -/
def trySend (node : Node) (closed : Bool) (c : TopicChannel) : Node :=
  if closed || topicCapacity ≤ node.topicQueue.length then node
  else { node with topicQueue := node.topicQueue ++ [c] }

/-- The brokerage info as it is sent. -/
def brokerageJson (info : MqttBrokerageInfo) : JsonValue :=
  .object [("address", .string info.address), ("port", .number (toString info.port)),
    ("ca_cert_pem", .string info.caCertPem)]

/-- The two topics of a new beacon, announced to the message loop. -/
def announceTopics (app : AppState) (node : Node) (o : InitOutcome) : Node :=
  if app.hasTopicTx then
    let node := trySend node o.topicsClosed (listenChannel o.beaconId)
    trySend node o.topicsClosed (broadcastChannel o.beaconId)
  else node

/-- The end of a handshake: announce the topics and answer. -/
def answerInit (app : AppState) (node : Node) (request : DeviceInitRequest) (certPem : String)
    (o : InitOutcome) : Response × Node :=
  let brokerage := { app.brokerageInfo with address := request.brokerHost }
  (jsonResponse 200 (.object [("cert_pem", .string certPem), ("brokerage", brokerageJson brokerage),
      ("beacon_id", .string o.beaconId)]),
    announceTopics app node o)

/-- `handle_device_init`. -/
def handleDeviceInit (app : AppState) (node : Node) (req : Request) (o : InitOutcome) :
    Response × Node :=
  match processRequest req with
  | .error r => (r, node)
  | .ok request =>
      match signCsr app node request.device.mdns.hostname o with
      | (.error _, node) => (textResponse 500 "Failed to sign device certificate", node)
      | (.ok certPem, node) =>
          match app.brokerage with
          | none => answerInit app node request certPem o
          | some config =>
              match registerCertIdentity config node request.device.mdns.hostname certPem
                o.write with
              | (.error _, node) =>
                  (textResponse 500 "Failed to register device MQTT identity", node)
              | (.ok (), node) => answerInit app node request certPem o

/-- A sequence of handshakes. -/
def serveInits (app : AppState) (node : Node) (hs : List (Request × InitOutcome)) : Node :=
  hs.foldl (fun node h => (handleDeviceInit app node h.1 h.2).2) node

-- ── Where the certificate goes ───────────────────────────────────────────────

/-- The node's own key files: those of its broker and those of its MQTT client. -/
def keyFiles (c : Config) : List String :=
  [c.mqttBrokerage.cafile, c.mqttBrokerage.certfile, c.mqttBrokerage.keyfile] ++
    [c.mqttClient.cafile, c.mqttClient.certfile, c.mqttClient.keyfile].filterMap id

/-- A path that a handshake may write to: directly in the directory of the CA file, and none of
    the node's own files. -/
structure SafeWrite (c : Config) (path : String) : Prop where
  child  : ∃ dir name, parent c.mqttBrokerage.cafile = some dir ∧
    resolve path = resolve dir ++ [name]
  notKey : ∀ f ∈ keyFiles c, resolve path ≠ resolve f

/-- The condition on a hostname: the part before its last `/` leads back to the certs directory
    (in particular there is none), and the rest with `.crt` is not the name of a file of the node
    there. -/
def Confined (c : Config) (hostname : String) : Prop :=
  ∀ dir, parent c.mqttBrokerage.cafile = some dir →
    walk (resolve dir) (components (dirPart hostname)) = resolve dir ∧
      ∀ f ∈ keyFiles c, resolve f ≠ resolve dir ++ [basePart hostname ++ ".crt"]

/-- Where the certificate file of a hostname is. -/
theorem resolve_certPath {dir hostname : String} :
    resolve (join dir (hostname ++ ".crt")) =
      walk (resolve dir) (components (dirPart hostname)) ++ [basePart hostname ++ ".crt"] := by
  rw [resolve, walk_join, walk_extension _ hostname (by decide) (by decide)]
  rfl

/-- **Which hostnames are safe.** -/
theorem certPath_safe_iff (c : Config) {hostname path : String}
    (h : certPath c.mqttBrokerage.cafile hostname = some path) :
    SafeWrite c path ↔ Confined c hostname := by
  obtain ⟨dir, hdir, rfl⟩ := Option.map_eq_some_iff.mp h
  constructor
  · rintro ⟨⟨dir', name, hdir', hchild⟩, hkey⟩ dir'' hdir''
    obtain rfl := Option.some.inj (hdir.symm.trans hdir')
    obtain rfl := Option.some.inj (hdir.symm.trans hdir'')
    rw [resolve_certPath] at hchild
    have hback := (List.append_inj' hchild rfl).1
    refine ⟨hback, ?_⟩
    intro f hf hres
    refine hkey f hf ?_
    rw [resolve_certPath, hback, hres]
  · intro hconf
    obtain ⟨hback, hkey⟩ := hconf dir hdir
    have hres : resolve (join dir (hostname ++ ".crt")) =
        resolve dir ++ [basePart hostname ++ ".crt"] := by
      rw [resolve_certPath, hback]
    exact ⟨⟨dir, _, hdir, hres⟩, fun f hf heq => hkey f hf (heq.symm.trans hres)⟩

-- ── What a handshake writes ──────────────────────────────────────────────────

/-- The hostname a handshake gets to record: the request is accepted, the CA signs and stores the
    certificate, and there is a broker. -/
def recordedHostname (app : AppState) (req : Request) (o : InitOutcome) : Option String :=
  match processRequest req, o.sign, o.persist with
  | .ok request, .ok _, .ok () =>
      if app.caReady ∧ app.brokerage.isSome then some request.device.mdns.hostname else none
  | _, _, _ => none

/-- The paths a handshake gives to `fs::write`. -/
def writtenPaths (app : AppState) (req : Request) (o : InitOutcome) : List String :=
  (app.brokerage.bind fun config =>
    (recordedHostname app req o).bind (certPath config.cafile ·)).toList

/-- Announcing topics and answering touches no file. -/
theorem answerInit_files (app : AppState) (node : Node) (request : DeviceInitRequest)
    (certPem : String) (o : InitOutcome) :
    (answerInit app node request certPem o).2.files = node.files ∧
      (answerInit app node request certPem o).2.written = node.written := by
  have hsend : ∀ (node : Node) closed c, (trySend node closed c).files = node.files ∧
      (trySend node closed c).written = node.written := by
    intro node closed c
    rw [trySend]
    split <;> exact ⟨rfl, rfl⟩
  show (announceTopics app node o).files = _ ∧ (announceTopics app node o).written = _
  rw [announceTopics]
  split
  · obtain ⟨hf, hw⟩ := hsend node o.topicsClosed (listenChannel o.beaconId)
    obtain ⟨hf', hw'⟩ := hsend (trySend node o.topicsClosed (listenChannel o.beaconId))
      o.topicsClosed (broadcastChannel o.beaconId)
    exact ⟨hf'.trans hf, hw'.trans hw⟩
  · exact ⟨rfl, rfl⟩

/-- Signing touches no file. -/
theorem signCsr_files (app : AppState) (node : Node) (deviceId : String) (o : InitOutcome) :
    (signCsr app node deviceId o).2.files = node.files ∧
      (signCsr app node deviceId o).2.written = node.written := by
  rw [signCsr]
  split
  · exact ⟨rfl, rfl⟩
  · cases o.sign with
    | error e => exact ⟨rfl, rfl⟩
    | ok cert =>
        obtain ⟨certPem, issuedAt, expiresAt⟩ := cert
        cases o.persist with
        | error e => exact ⟨rfl, rfl⟩
        | ok u => exact ⟨rfl, rfl⟩

/-- When signing succeeds. -/
theorem signCsr_ok_iff (app : AppState) (node : Node) (deviceId : String) (o : InitOutcome) :
    (∃ pem, (signCsr app node deviceId o).1 = .ok pem) ↔
      app.caReady = true ∧ (∃ cert, o.sign = .ok cert) ∧ o.persist = .ok () := by
  rw [signCsr]
  cases hca : app.caReady with
  | false => simp
  | true =>
      cases hs : o.sign with
      | error e => simp
      | ok cert =>
          obtain ⟨certPem, issuedAt, expiresAt⟩ := cert
          cases hp : o.persist with
          | error e => simp
          | ok u => simp

/-- Recording an identity writes the certificate path and nothing else. -/
theorem registerCertIdentity_files (config : MqttBrokerageConfig) (node : Node)
    (hostname certPem : String) (w : WriteOutcome) :
    (registerCertIdentity config node hostname certPem w).2.written =
        node.written ++ (certPath config.cafile hostname).toList ∧
      ∀ f, (∀ path, certPath config.cafile hostname = some path → f ≠ resolve path) →
        (registerCertIdentity config node hostname certPem w).2.files f = node.files f := by
  rw [registerCertIdentity]
  cases certPath config.cafile hostname with
  | none => exact ⟨(List.append_nil _).symm, fun _ _ => rfl⟩
  | some path =>
      cases w with
      | written => exact ⟨rfl, fun f hf => Function.update_of_ne (hf path rfl) ..⟩
      | failed e left => exact ⟨rfl, fun f hf => Function.update_of_ne (hf path rfl) ..⟩

/-- It touches neither the table nor the queue. -/
theorem registerCertIdentity_frame (config : MqttBrokerageConfig) (node : Node)
    (hostname certPem : String) (w : WriteOutcome) :
    (registerCertIdentity config node hostname certPem w).2.deviceCerts = node.deviceCerts ∧
      (registerCertIdentity config node hostname certPem w).2.topicQueue = node.topicQueue := by
  rw [registerCertIdentity]
  cases certPath config.cafile hostname with
  | none => exact ⟨rfl, rfl⟩
  | some path => cases w <;> exact ⟨rfl, rfl⟩

/-- A handshake that gets past the CA records its hostname exactly when there is a broker. -/
theorem writtenPaths_of_signed {app : AppState} {req : Request} {o : InitOutcome} {node : Node}
    {request : DeviceInitRequest} (hreq : processRequest req = .ok request) {pem : String}
    (hsign : (signCsr app node request.device.mdns.hostname o).1 = .ok pem) :
    writtenPaths app req o =
      (app.brokerage.bind fun config =>
        certPath config.cafile request.device.mdns.hostname).toList := by
  obtain ⟨hca, ⟨cert, hs⟩, hp⟩ := (signCsr_ok_iff app node _ o).mp ⟨pem, hsign⟩
  have hrecorded : recordedHostname app req o =
      if app.brokerage.isSome then some request.device.mdns.hostname else none := by
    simp only [recordedHostname, hreq, hs, hp, hca, true_and]
  rw [writtenPaths, hrecorded]
  cases app.brokerage with
  | none => simp only [Option.bind_none]
  | some config => simp only [Option.bind_some, Option.isSome_some, if_true]

/-- One that does not get there writes nothing. -/
theorem writtenPaths_of_refused {app : AppState} {req : Request} {o : InitOutcome} (node : Node)
    (h : ∀ request, processRequest req = .ok request →
      ∀ pem, (signCsr app node request.device.mdns.hostname o).1 ≠ .ok pem) :
    writtenPaths app req o = [] := by
  have hnone : recordedHostname app req o = none := by
    rw [recordedHostname]
    cases hreq : processRequest req with
    | error r => rfl
    | ok request =>
        cases hs : o.sign with
        | error e => rfl
        | ok cert =>
            cases hp : o.persist with
            | error e => rfl
            | ok u =>
                refine if_neg ?_
                rintro ⟨hca, -⟩
                obtain ⟨pem, hpem⟩ := (signCsr_ok_iff app node request.device.mdns.hostname o).mpr
                  ⟨hca, ⟨cert, hs⟩, hp⟩
                exact h request hreq pem hpem
  rw [writtenPaths, hnone]
  cases app.brokerage <;> rfl

/-- **What a handshake writes**: the certificate of the hostname it gets to record. -/
theorem handleDeviceInit_files (app : AppState) (node : Node) (req : Request) (o : InitOutcome) :
    (handleDeviceInit app node req o).2.written = node.written ++ writtenPaths app req o ∧
      ∀ f, (∀ path ∈ writtenPaths app req o, f ≠ resolve path) →
        (handleDeviceInit app node req o).2.files f = node.files f := by
  -- a handshake that writes no file: it was refused, or there is no broker
  have hidle : ∀ node' : Node, node'.files = node.files ∧ node'.written = node.written →
      writtenPaths app req o = [] →
      node'.written = node.written ++ writtenPaths app req o ∧
        ∀ f, (∀ path ∈ writtenPaths app req o, f ≠ resolve path) →
          node'.files f = node.files f := by
    rintro node' ⟨hf, hw⟩ hnone
    rw [hnone, hw, hf]
    exact ⟨(List.append_nil _).symm, fun _ _ => rfl⟩
  rw [handleDeviceInit]
  cases hreq : processRequest req with
  | error r =>
      refine hidle node ⟨rfl, rfl⟩ (writtenPaths_of_refused node ?_)
      intro request h
      exact nomatch hreq.symm.trans h
  | ok request =>
      have hfiles := signCsr_files app node request.device.mdns.hostname o
      rcases hsign : signCsr app node request.device.mdns.hostname o with ⟨r, node₁⟩
      rw [hsign] at hfiles
      simp only [hsign]
      cases r with
      | error e =>
          refine hidle node₁ hfiles (writtenPaths_of_refused node ?_)
          intro request' h pem hpem
          obtain rfl := Except.ok.inj (hreq.symm.trans h)
          rw [hsign] at hpem
          exact nomatch hpem
      | ok pem =>
          have hwritten := writtenPaths_of_signed hreq (show (signCsr app node _ o).1 = .ok pem by
            rw [hsign])
          simp only []
          cases hb : app.brokerage with
          | none =>
              rw [hb] at hwritten
              obtain ⟨hf, hw⟩ := answerInit_files app node₁ request pem o
              exact hidle _ ⟨hf.trans hfiles.1, hw.trans hfiles.2⟩ hwritten
          | some config =>
              rw [hb, Option.bind_some] at hwritten
              obtain ⟨hw, hf⟩ := registerCertIdentity_files config node₁
                request.device.mdns.hostname pem o.write
              rw [hfiles.1] at hf
              rw [hfiles.2] at hw
              rw [hwritten]
              rcases hreg : registerCertIdentity config node₁ request.device.mdns.hostname pem
                o.write with ⟨r, node₂⟩
              rw [hreg] at hw hf
              simp only [hreg]
              have hfiles' : node₂.written = node.written ++
                  (certPath config.cafile request.device.mdns.hostname).toList ∧
                  ∀ f, (∀ path ∈ (certPath config.cafile request.device.mdns.hostname).toList,
                    f ≠ resolve path) → node₂.files f = node.files f :=
                ⟨hw, fun f h => hf f fun path hp => h path (Option.mem_toList.mpr hp)⟩
              cases r with
              | error e => exact hfiles'
              | ok u =>
                  obtain ⟨hf', hw'⟩ := answerInit_files app node₂ request pem o
                  simp only []
                  rw [hf', hw']
                  exact hfiles'

/-- The paths written along a sequence of handshakes, and what they leave alone. -/
theorem serveInits_files (app : AppState) (hs : List (Request × InitOutcome)) (node : Node) :
    (serveInits app node hs).written =
        node.written ++ hs.flatMap (fun h => writtenPaths app h.1 h.2) ∧
      ∀ f, (∀ h ∈ hs, ∀ path ∈ writtenPaths app h.1 h.2, f ≠ resolve path) →
        (serveInits app node hs).files f = node.files f := by
  induction hs generalizing node with
  | nil => exact ⟨(List.append_nil _).symm, fun _ _ => rfl⟩
  | cons h hs ih =>
      obtain ⟨hw, hf⟩ := handleDeviceInit_files app node h.1 h.2
      obtain ⟨ihw, ihf⟩ := ih (handleDeviceInit app node h.1 h.2).2
      refine ⟨?_, ?_⟩
      · rw [List.flatMap_cons, ← List.append_assoc, ← hw]
        exact ihw
      · intro f hsafe
        exact (ihf f fun h' hh' => hsafe h' (List.mem_cons_of_mem h hh')).trans
          (hf f (hsafe h List.mem_cons_self))

-- ── Sequences of handshakes ──────────────────────────────────────────────────

/-- A node before its first handshake. -/
def Node.start (deviceCerts : String → Option DeviceCert) (files : List String → Option String) :
    Node where
  deviceCerts := deviceCerts
  files       := files
  topicQueue  := []
  written     := []

/-- Every hostname that the handshakes get to record is confined. -/
def AllConfined (c : Config) (app : AppState) (hs : List (Request × InitOutcome)) : Prop :=
  ∀ h ∈ hs, ∀ hostname, recordedHostname app h.1 h.2 = some hostname → Confined c hostname

/-- A handshake writes only to safe paths exactly when the hostname it records is confined. -/
theorem writtenPaths_safe_iff (c : Config) (caCertPem : String) (brokerAvailable : Bool)
    (req : Request) (o : InitOutcome) :
    (∀ path ∈ writtenPaths (.ofConfig c caCertPem brokerAvailable) req o, SafeWrite c path) ↔
      ∀ hostname, recordedHostname (.ofConfig c caCertPem brokerAvailable) req o = some hostname →
        Confined c hostname := by
  cases brokerAvailable with
  | false =>
      -- no broker: nothing is recorded and nothing written
      have hnone : recordedHostname (.ofConfig c caCertPem false) req o = none := by
        rw [recordedHostname]
        split
        · exact if_neg fun h => Bool.noConfusion h.2
        · rfl
      rw [hnone]
      exact ⟨fun _ _ h => (nomatch h), fun _ _ h => (nomatch h)⟩
  | true =>
      rw [show writtenPaths (.ofConfig c caCertPem true) req o =
        ((recordedHostname (.ofConfig c caCertPem true) req o).bind
          (certPath c.mqttBrokerage.cafile ·)).toList from rfl]
      cases hrec : recordedHostname (.ofConfig c caCertPem true) req o with
      | none => exact ⟨fun _ _ h => (nomatch h), fun _ _ h => (nomatch h)⟩
      | some hostname =>
          cases hpath : certPath c.mqttBrokerage.cafile hostname with
          | none =>
              have hparent : parent c.mqttBrokerage.cafile = none := Option.map_eq_none_iff.mp hpath
              refine ⟨?_, fun _ path h => ?_⟩
              · intro _ _ _ dir hdir
                exact nomatch hparent.symm.trans hdir
              · rw [Option.bind_some, hpath] at h
                exact nomatch h
          | some path =>
              have hiff := certPath_safe_iff c hpath
              rw [Option.bind_some, hpath]
              constructor
              · intro h hostname' heq
                obtain rfl := Option.some.inj heq
                exact hiff.mp (h path List.mem_cons_self)
              · intro h path' hmem
                obtain rfl := List.mem_singleton.mp hmem
                exact hiff.mpr (h hostname rfl)

/-- **Handshakes and the node's files.** For every environment and every sequence of handshakes:
    all files written are directly in the directory of the CA file and none of the node's own if
    and only if every recorded hostname is confined; and then all the node's own files are as they
    were. -/
theorem handshakes_safe_iff (env : Env) (currentDir caCertPem : String) (brokerAvailable : Bool)
    (deviceCerts : String → Option DeviceCert) (files : List String → Option String)
    (hs : List (Request × InitOutcome)) :
    let c := Config.fromEnv env currentDir
    let app := AppState.ofConfig c caCertPem brokerAvailable
    let node := serveInits app (.start deviceCerts files) hs
    ((∀ path ∈ node.written, SafeWrite c path) ↔ AllConfined c app hs) ∧
      (AllConfined c app hs → ∀ f ∈ keyFiles c, node.files (resolve f) = files (resolve f)) := by
  intro c app node
  obtain ⟨hw, hf⟩ := serveInits_files app hs (.start deviceCerts files)
  have hsafe := fun h : Request × InitOutcome =>
    writtenPaths_safe_iff c caCertPem brokerAvailable h.1 h.2
  refine ⟨?_, ?_⟩
  · rw [show node.written = hs.flatMap (fun h => writtenPaths app h.1 h.2) from hw]
    constructor
    · intro hall h hh
      exact (hsafe h).mp fun path hp => hall path (List.mem_flatMap.mpr ⟨h, hh, hp⟩)
    · intro hconf path hp
      obtain ⟨h, hh, hp⟩ := List.mem_flatMap.mp hp
      exact (hsafe h).mpr (hconf h hh) path hp
  · intro hconf f hkey
    refine hf (resolve f) fun h hh path hp heq => ?_
    exact ((hsafe h).mpr (hconf h hh) path hp).notKey f hkey heq.symm

/-- A handshake of a device that claims the hostname `hostname`. -/
def claimHostname (hostname : String) : Request × InitOutcome :=
  ({ header := fun name => if name = headerInit then some (some supportedVersion) else none
     body   := .ok (.ok ⟨"10.0.0.7", ⟨hostname, 80⟩, "csr"⟩) },
   { sign := .ok ("device cert", 0, 31536000), persist := .ok (), write := .written,
     beaconId := "b1", topicsClosed := false })

/-- The files of a node with default settings in `/srv`. -/
def defaultFiles : List String → Option String := fun f =>
  if f = ["srv", "config", "certs", "ca.crt"] then some "CA cert" else none

/-- **A device named `ca` replaces the CA certificate.** -/
theorem hostname_ca_overwrites_cafile :
    let c := Config.fromEnv (fun _ => none) "/srv"
    let node := serveInits (.ofConfig c "CA cert" true) (.start (fun _ => none) defaultFiles)
      [claimHostname "ca"]
    defaultFiles (resolve c.mqttBrokerage.cafile) = some "CA cert" ∧
      node.files (resolve c.mqttBrokerage.cafile) = some "device cert" ∧
      ∃ path ∈ node.written, ¬ SafeWrite c path := by
  refine ⟨by decide, by decide +kernel, "/srv/config/certs/ca.crt", by decide +kernel, ?_⟩
  intro hsafe
  exact hsafe.notKey "/srv/config/certs/ca.crt" (by decide) rfl

end HamletHandshake
