import Hamlet.DeviceCertProofs

/-!
# HTTP requests, and what they may change

Every request to the gateway goes through `dispatch`: a health check, a device handshake, a client
registration, or the upstream server. Two of the four write — a certificate into `device_certs`, a
certificate file, topics into a queue — and each of them is a chain of fallible calls.

`issued` is the one fact about a request that the results need: the id under which it gets a
certificate signed and stored, if it does. Then

* `failed_request_unchanged_iff` — a request that is not answered with 2xx leaves the stores as they
  were, EXCEPT a handshake whose certificate was stored and whose certificate file could not be
  written;
* `revocation_survives_iff` — the table is upserted, so a device stays revoked along any sequence of
  requests exactly as long as none of them gets a certificate issued under its id. The id of a
  handshake is the hostname the device claims.
-/

namespace HamletDispatch

open UnixPath HamletConfig HamletHandshake HamletCloudGateway HamletDeviceCert

-- ── Requests ─────────────────────────────────────────────────────────────────

/-- `HEADER_REGISTER`. -/
def headerRegister : String := "x-placenet-register"

/-- `HEADER_HEALTH`. -/
def headerHealth : String := "x-placenet-health"

/-- The bytes of a body, as far as they are looked at: decoded as the payload of a handshake, and as
    the CSR of a client. -/
structure HttpBody where
  asDevice : Except String DeviceInfo
  asClient : Except String String

/-- A request; `body` is the outcome of reading at most `PROXY_BODY_LIMIT` bytes. -/
structure HttpRequest where
  header : String → Option HeaderValue
  body   : Except String HttpBody

/-- The request as `handle_device_init` sees it. -/
def HttpRequest.init (req : HttpRequest) : HamletHandshake.Request where
  header := req.header
  body   := req.body.map HttpBody.asDevice

/-- `DeviceRegisterRequest::process_request`: the CSR. -/
def processRegister (req : HttpRequest) : Except Response String :=
  match req.body with
  | .error _ => .error (textResponse 400 "Failed to read request body")
  | .ok body =>
      match body.asClient with
      | .error _ => .error (textResponse 422 "Invalid JSON body")
      | .ok csrPem => .ok csrPem

/-- The state the handlers share, with the CA's own certificate. -/
structure GatewayState where
  app       : AppState
  caCertPem : String

/-- `CaService::ca_cert_pem`. -/
def GatewayState.caCert (gw : GatewayState) : Except String String :=
  if gw.app.caReady then .ok gw.caCertPem else .error "CA not initialised"

/-- What the external calls of a request answer: those of the CA and of a handshake, the fresh id of
    a client, and the upstream server. -/
structure DispatchOutcome where
  calls    : InitOutcome
  clientId : String
  forward  : Except String Response

-- ── The handlers ─────────────────────────────────────────────────────────────

/-- `handle_health`. -/
def handleHealth : Response := textResponse 200 "OK"

/-- `handle_client_register`. -/
def handleClientRegister (gw : GatewayState) (node : Node) (req : HttpRequest)
    (o : DispatchOutcome) : Response × Node :=
  match processRegister req with
  | .error r => (r, node)
  | .ok _ =>
      match HamletHandshake.signCsr gw.app node o.clientId o.calls with
      | (.error _, node) => (textResponse 500 "Failed to sign client certificate", node)
      | (.ok certPem, node) =>
          match gw.caCert with
          | .error _ => (textResponse 500 "Failed to retrieve CA certificate", node)
          | .ok caCertPem =>
              (jsonResponse 201 (.object [("client_id", .string o.clientId),
                ("cert_pem", .string certPem), ("ca_cert_pem", .string caCertPem)]), node)

/-- `dispatch`. -/
def dispatch (gw : GatewayState) (node : Node) (req : HttpRequest) (o : DispatchOutcome) :
    Response × Node :=
  if (req.header headerHealth).isSome then (handleHealth, node)
  else if (req.header headerInit).isSome then handleDeviceInit gw.app node req.init o.calls
  else if (req.header headerRegister).isSome then handleClientRegister gw node req o
  else
    match o.forward with
    | .ok r => (r, node)
    | .error _ => (textResponse 502 "Bad Gateway", node)

/-- Requests one after another. -/
def dispatchAll (gw : GatewayState) (node : Node) (reqs : List (HttpRequest × DispatchOutcome)) :
    Node :=
  reqs.foldl (fun node x => (dispatch gw node x.1 x.2).2) node

-- ── What a request issues ────────────────────────────────────────────────────

/-- The row that the CA signs and stores, if it does. -/
def signedRow (app : AppState) (o : InitOutcome) : Option DeviceCert :=
  match app.caReady, o.sign, o.persist with
  | true, .ok (certPem, issuedAt, expiresAt), .ok () => some ⟨certPem, issuedAt, expiresAt, false⟩
  | _, _, _ => none

/-- The id under which a request gets a certificate issued, and the row it stores. -/
def issued (gw : GatewayState) (req : HttpRequest) (o : DispatchOutcome) :
    Option (String × DeviceCert) :=
  if (req.header headerHealth).isSome then none
  else if (req.header headerInit).isSome then
    match processRequest req.init with
    | .error _ => none
    | .ok request => (signedRow gw.app o.calls).map fun row => (request.device.mdns.hostname, row)
  else if (req.header headerRegister).isSome then
    match processRegister req with
    | .error _ => none
    | .ok _ => (signedRow gw.app o.calls).map fun row => (o.clientId, row)
  else none

/-- The table with a row stored, if there is one. -/
def withRow (certs : String → Option DeviceCert) :
    Option (String × DeviceCert) → String → Option DeviceCert
  | none => certs
  | some (id, row) => Function.update certs id (some row)

/-- The node with a certificate stored. -/
def storeRow (node : Node) (id : String) (row : DeviceCert) : Node :=
  { node with deviceCerts := Function.update node.deviceCerts id (some row) }

theorem signCsr_none {app : AppState} {o : InitOutcome} (h : signedRow app o = none) (node : Node)
    (id : String) : ∃ e, HamletHandshake.signCsr app node id o = (.error e, node) := by
  rw [HamletHandshake.signCsr]
  rw [signedRow] at h
  cases hca : app.caReady with
  | false => exact ⟨_, rfl⟩
  | true =>
      cases hs : o.sign with
      | error e => exact ⟨_, rfl⟩
      | ok cert =>
          cases hp : o.persist with
          | error e => exact ⟨_, rfl⟩
          | ok u => simp [hca, hs, hp] at h

theorem signCsr_some {app : AppState} {o : InitOutcome} {row : DeviceCert}
    (h : signedRow app o = some row) (node : Node) (id : String) :
    HamletHandshake.signCsr app node id o = (.ok row.certPem, storeRow node id row) ∧
      app.caReady = true ∧ row.revoked = false := by
  rw [HamletHandshake.signCsr]
  rw [signedRow] at h
  cases hca : app.caReady with
  | false => simp [hca] at h
  | true =>
      cases hs : o.sign with
      | error e => simp [hca, hs] at h
      | ok cert =>
          cases hp : o.persist with
          | error e => simp [hca, hs, hp] at h
          | ok u =>
              simp only [hca, hs, hp, Option.some.injEq] at h
              subst h
              exact ⟨rfl, rfl, rfl⟩

-- ── Recording the certificate file ───────────────────────────────────────────

/-- Whether `register_cert_identity` fails, and what it leaves of the file if it got to one. -/
def identityFails (config : MqttBrokerageConfig) (hostname : String) (w : WriteOutcome) :
    Option (Option (List String × Option String)) :=
  match certPath config.cafile hostname, w with
  | none, _ => some none
  | some path, .failed _ left => some (some (resolve path, left))
  | some _, .written => none

/-- The files with the one that a failed write leaves. -/
def withFile (files : List String → Option String) :
    Option (List String × Option String) → List String → Option String
  | none => files
  | some (path, contents) => Function.update files path contents

section Identity

variable (config : MqttBrokerageConfig) (node : Node) (hostname certPem : String) (w : WriteOutcome)

theorem registerCertIdentity_ok (h : identityFails config hostname w = none) :
    (registerCertIdentity config node hostname certPem w).1 = .ok () := by
  rw [registerCertIdentity]
  cases hpath : certPath config.cafile hostname with
  | none => simp [identityFails, hpath] at h
  | some path =>
      cases w with
      | written => rfl
      | failed e left => simp [identityFails, hpath] at h

theorem registerCertIdentity_fails {left : Option (List String × Option String)}
    (h : identityFails config hostname w = some left) :
    (∃ e, (registerCertIdentity config node hostname certPem w).1 = .error e) ∧
      (registerCertIdentity config node hostname certPem w).2.files = withFile node.files left := by
  rw [registerCertIdentity]
  cases hpath : certPath config.cafile hostname with
  | none =>
      obtain rfl : none = left := by simpa [identityFails, hpath] using h
      exact ⟨⟨_, rfl⟩, rfl⟩
  | some path =>
      cases w with
      | written => simp [identityFails, hpath] at h
      | failed e contents =>
          obtain rfl : some (resolve path, contents) = left := by
            simpa [identityFails, hpath] using h
          exact ⟨⟨_, rfl⟩, rfl⟩

end Identity

-- ── How a handshake can end ──────────────────────────────────────────────────

/-- The ways a handshake ends: refused, not signed, answered, or failed after its certificate was
    stored. -/
inductive InitEnd (app : AppState) (node : Node) (req : HamletHandshake.Request) (o : InitOutcome) :
    Response × Node → Prop where
  | refused (r : Response) (hreq : processRequest req = .error r) : InitEnd app node req o (r, node)
  | unsigned (request : DeviceInitRequest) (hreq : processRequest req = .ok request)
      (hrow : signedRow app o = none) :
      InitEnd app node req o (textResponse 500 "Failed to sign device certificate", node)
  | answered (request : DeviceInitRequest) (row : DeviceCert) (node' : Node)
      (hreq : processRequest req = .ok request) (hrow : signedRow app o = some row)
      (hcerts : node'.deviceCerts =
        Function.update node.deviceCerts request.device.mdns.hostname (some row))
      (hdone : ∀ config left, app.brokerage = some config →
        identityFails config request.device.mdns.hostname o.write ≠ some left) :
      InitEnd app node req o (answerInit app node' request row.certPem o)
  | unrecorded (request : DeviceInitRequest) (row : DeviceCert) (config : MqttBrokerageConfig)
      (left : Option (List String × Option String)) (node' : Node)
      (hreq : processRequest req = .ok request) (hrow : signedRow app o = some row)
      (hbroker : app.brokerage = some config)
      (hfails : identityFails config request.device.mdns.hostname o.write = some left)
      (hcerts : node'.deviceCerts =
        Function.update node.deviceCerts request.device.mdns.hostname (some row))
      (hfiles : node'.files = withFile node.files left)
      (hqueue : node'.topicQueue = node.topicQueue) :
      InitEnd app node req o (textResponse 500 "Failed to register device MQTT identity", node')

theorem handleDeviceInit_end (app : AppState) (node : Node) (req : HamletHandshake.Request)
    (o : InitOutcome) : InitEnd app node req o (handleDeviceInit app node req o) := by
  rw [handleDeviceInit]
  cases hreq : processRequest req with
  | error r => exact .refused r hreq
  | ok request =>
      cases hrow : signedRow app o with
      | none =>
          obtain ⟨e, he⟩ := signCsr_none hrow node request.device.mdns.hostname
          simp only [he]
          exact .unsigned request hreq hrow
      | some row =>
          obtain ⟨hsign, -, -⟩ := signCsr_some hrow node request.device.mdns.hostname
          simp only [hsign]
          cases hbroker : app.brokerage with
          | none =>
              refine .answered request row _ hreq hrow rfl fun config left hsome => ?_
              cases hbroker.symm.trans hsome
          | some config =>
              obtain ⟨hcerts, hqueue⟩ := registerCertIdentity_frame config
                (storeRow node request.device.mdns.hostname row) request.device.mdns.hostname
                row.certPem o.write
              have hok := registerCertIdentity_ok config
                (storeRow node request.device.mdns.hostname row) request.device.mdns.hostname
                row.certPem o.write
              have hfail := fun left => @registerCertIdentity_fails config
                (storeRow node request.device.mdns.hostname row) request.device.mdns.hostname
                row.certPem o.write left
              simp only []
              generalize registerCertIdentity config
                (storeRow node request.device.mdns.hostname row) request.device.mdns.hostname
                row.certPem o.write = x at hcerts hqueue hok hfail ⊢
              obtain ⟨r, node'⟩ := x
              cases hid : identityFails config request.device.mdns.hostname o.write with
              | none =>
                  obtain rfl : r = .ok () := hok hid
                  refine .answered request row node' hreq hrow hcerts ?_
                  intro config' left hsome hleft
                  obtain rfl := Option.some.inj (hbroker.symm.trans hsome)
                  cases hid.symm.trans hleft
              | some left =>
                  obtain ⟨⟨e, he⟩, hfiles⟩ := hfail left hid
                  obtain rfl : r = .error e := he
                  exact .unrecorded request row config left node' hreq hrow hbroker hid hcerts
                    hfiles hqueue

/-- The same for a client. -/
inductive RegisterEnd (gw : GatewayState) (node : Node) (req : HttpRequest) (o : DispatchOutcome) :
    Response × Node → Prop where
  | refused (r : Response) (hreq : processRegister req = .error r) :
      RegisterEnd gw node req o (r, node)
  | unsigned (csrPem : String) (hreq : processRegister req = .ok csrPem)
      (hrow : signedRow gw.app o.calls = none) :
      RegisterEnd gw node req o (textResponse 500 "Failed to sign client certificate", node)
  | answered (csrPem : String) (row : DeviceCert) (r : Response)
      (hreq : processRegister req = .ok csrPem) (hrow : signedRow gw.app o.calls = some row)
      (hstatus : r.status = 201) : RegisterEnd gw node req o (r, storeRow node o.clientId row)

theorem handleClientRegister_end (gw : GatewayState) (node : Node) (req : HttpRequest)
    (o : DispatchOutcome) : RegisterEnd gw node req o (handleClientRegister gw node req o) := by
  rw [handleClientRegister]
  cases hreq : processRegister req with
  | error r => exact .refused r hreq
  | ok csrPem =>
      cases hrow : signedRow gw.app o.calls with
      | none =>
          obtain ⟨e, he⟩ := signCsr_none hrow node o.clientId
          simp only [he]
          exact .unsigned csrPem hreq hrow
      | some row =>
          obtain ⟨hsign, hca, -⟩ := signCsr_some hrow node o.clientId
          -- the CA that has just signed has a certificate
          simp only [hsign, GatewayState.caCert, hca, if_true]
          exact .answered csrPem row _ hreq hrow rfl

-- ── What a failed request leaves behind ──────────────────────────────────────

/-- A 2xx status. -/
def Success (r : Response) : Prop := 200 ≤ r.status ∧ r.status < 300

instance (r : Response) : Decidable (Success r) := instDecidableAnd

/-- The table, the certificate files and the queue are as they were. -/
structure SameStores (node node' : Node) : Prop where
  certs : node'.deviceCerts = node.deviceCerts
  files : node'.files = node.files
  queue : node'.topicQueue = node.topicQueue

theorem SameStores.rfl {node : Node} : SameStores node node := ⟨Eq.refl _, Eq.refl _, Eq.refl _⟩

/-- A handshake whose certificate gets signed and stored and whose certificate file then cannot be
    written: the id, its new row, and what the write leaves of the file. -/
def unrecorded (gw : GatewayState) (req : HttpRequest) (o : DispatchOutcome) :
    Option (String × DeviceCert × Option (List String × Option String)) :=
  if (req.header headerHealth).isSome || (req.header headerInit).isNone then none
  else
    match processRequest req.init, signedRow gw.app o.calls, gw.app.brokerage with
    | .ok request, some row, some config =>
        (identityFails config request.device.mdns.hostname o.calls.write).map fun left =>
          (request.device.mdns.hostname, row, left)
    | _, _, _ => none

/-- The row was there before, and so was what is left of the file. -/
def LeftAsFound (node : Node) (id : String) (row : DeviceCert) :
    Option (List String × Option String) → Prop
  | none => node.deviceCerts id = some row
  | some (path, contents) => node.deviceCerts id = some row ∧ node.files path = contents

theorem sameStores_unrecorded_iff {node node' : Node} {id : String} {row : DeviceCert}
    {left : Option (List String × Option String)}
    (hcerts : node'.deviceCerts = Function.update node.deviceCerts id (some row))
    (hfiles : node'.files = withFile node.files left)
    (hqueue : node'.topicQueue = node.topicQueue) :
    SameStores node node' ↔ LeftAsFound node id row left := by
  have hrow : node'.deviceCerts = node.deviceCerts ↔ node.deviceCerts id = some row := by
    rw [hcerts]
    exact Function.update_eq_self_iff.trans eq_comm
  cases left with
  | none => exact ⟨fun h => hrow.mp h.certs, fun h => ⟨hrow.mpr h, hfiles, hqueue⟩⟩
  | some x =>
      obtain ⟨path, contents⟩ := x
      have hfile : node'.files = node.files ↔ node.files path = contents := by
        rw [hfiles]
        exact Function.update_eq_self_iff.trans eq_comm
      exact ⟨fun h => ⟨hrow.mp h.certs, hfile.mp h.files⟩,
        fun h => ⟨hrow.mpr h.1, hfile.mpr h.2, hqueue⟩⟩

/-- A handshake that is not answered leaves the stores as they were exactly when it did not get
    stuck between the certificate and its file, or found there what it leaves. -/
theorem handleDeviceInit_unchanged_iff (gw : GatewayState) (node : Node) (req : HttpRequest)
    (o : DispatchOutcome) (hhealth : (req.header headerHealth).isSome = false)
    (hinit : (req.header headerInit).isSome = true) :
    (¬ Success (handleDeviceInit gw.app node req.init o.calls).1 →
        SameStores node (handleDeviceInit gw.app node req.init o.calls).2) ↔
      ∀ id row left, unrecorded gw req o = some (id, row, left) → LeftAsFound node id row left := by
  have hun : unrecorded gw req o =
      match processRequest req.init, signedRow gw.app o.calls, gw.app.brokerage with
      | .ok request, some row, some config =>
          (identityFails config request.device.mdns.hostname o.calls.write).map fun left =>
            (request.device.mdns.hostname, row, left)
      | _, _, _ => none := by
    have hnone : (req.header headerInit).isNone = false := by simpa using hinit
    rw [unrecorded, hhealth, hnone]
    rfl
  have hend := handleDeviceInit_end gw.app node req.init o.calls
  generalize handleDeviceInit gw.app node req.init o.calls = x at hend ⊢
  cases hend with
  | refused r hreq =>
      rw [hreq] at hun
      exact iff_of_true (fun _ => .rfl) fun id row left h => (nomatch hun.symm.trans h)
  | unsigned request hreq hrow =>
      rw [hreq, hrow] at hun
      exact iff_of_true (fun _ => .rfl) fun id row left h => (nomatch hun.symm.trans h)
  | answered request row node' hreq hrow hcerts hdone =>
      have h200 : 200 ≤ 200 ∧ 200 < 300 := by decide
      refine iff_of_true (fun h => absurd h200 h) fun id row' left h => ?_
      rw [hun, hreq, hrow] at h
      cases hbroker : gw.app.brokerage with
      | none => rw [hbroker] at h; exact nomatch h
      | some config =>
          rw [hbroker] at h
          obtain ⟨left', hleft', -⟩ := Option.map_eq_some_iff.mp h
          exact absurd hleft' (hdone config left' hbroker)
  | unrecorded request row config left node' hreq hrow hbroker hfails hcerts hfiles hqueue =>
      simp only [hreq, hrow, hbroker, hfails, Option.map_some] at hun
      have hstores := sameStores_unrecorded_iff hcerts hfiles hqueue
      have h500 : ¬ (200 ≤ 500 ∧ 500 < 300) := by decide
      constructor
      · intro h id row' left' heq
        cases hun.symm.trans heq
        exact hstores.mp (h h500)
      · intro h _
        exact hstores.mpr (h _ _ _ hun)

/-- **Failed requests.** For every state, every request and every outcome of the calls it makes: a
    request that is not answered with 2xx leaves the stores as they were if and only if it is not a
    handshake whose certificate was stored and whose file could not be written — or the row and the
    file were already what it leaves. -/
theorem failed_request_unchanged_iff (gw : GatewayState) (node : Node) (req : HttpRequest)
    (o : DispatchOutcome) :
    (¬ Success (dispatch gw node req o).1 → SameStores node (dispatch gw node req o).2) ↔
      ∀ id row left, unrecorded gw req o = some (id, row, left) → LeftAsFound node id row left := by
  rw [dispatch]
  cases hhealth : (req.header headerHealth).isSome with
  | true =>
      have hun : unrecorded gw req o = none := by rw [unrecorded, hhealth]; rfl
      exact iff_of_true (fun _ => .rfl) fun id row left h => (nomatch hun.symm.trans h)
  | false =>
      cases hinit : (req.header headerInit).isSome with
      | true => exact handleDeviceInit_unchanged_iff gw node req o hhealth hinit
      | false =>
          have hun : unrecorded gw req o = none := by
            have hnone : (req.header headerInit).isNone = true := by simpa using hinit
            rw [unrecorded, hhealth, hnone]
            rfl
          refine iff_of_true ?_ fun id row left h => (nomatch hun.symm.trans h)
          simp only [Bool.false_eq_true, if_false]
          split
          · have hend := handleClientRegister_end gw node req o
            generalize handleClientRegister gw node req o = x at hend ⊢
            cases hend with
            | refused r hreq => exact fun _ => .rfl
            | unsigned csrPem hreq hrow => exact fun _ => .rfl
            | answered csrPem row r hreq hrow hstatus =>
                intro h
                exact absurd (by simp [Success, hstatus]) h
          · cases o.forward with
            | ok r => exact fun _ => .rfl
            | error e => exact fun _ => .rfl

/-- The gateway of a node with default settings in `/srv`. -/
def defaultGateway : GatewayState where
  app       := .ofConfig (Config.fromEnv (fun _ => none) "/srv") "CA cert" true
  caCertPem := "CA cert"

/-- A handshake of a device that claims a hostname; the given write of its file. -/
def handshakeOf (hostname : String) (w : WriteOutcome) : HttpRequest × DispatchOutcome :=
  ({ header := fun name => if name = headerInit then some (some supportedVersion) else none
     body   := .ok ⟨.ok ⟨"10.0.0.7", ⟨hostname, 80⟩, "csr"⟩, .ok "csr"⟩ },
   { calls    := { sign := .ok ("new cert", 5, 31536005), persist := .ok (), write := w,
                   beaconId := "b1", topicsClosed := false }
     clientId := "c1"
     forward  := .error "connection refused" })

/-- **A handshake answered with 500 replaces the device's certificate** and clears its revocation:
    the disk is full when the file is written. -/
theorem failed_handshake_replaces_cert :
    let node := Node.start
      (fun d => if d = "cam" then some ⟨"old cert", 0, 31536000, true⟩ else none) defaultFiles
    let x := handshakeOf "cam" (.failed "No space left on device" none)
    let r := dispatch defaultGateway node x.1 x.2
    r.1.status = 500 ∧ ¬ Success r.1 ∧
      node.deviceCerts "cam" = some ⟨"old cert", 0, 31536000, true⟩ ∧
      r.2.deviceCerts "cam" = some ⟨"new cert", 5, 31536005, false⟩ ∧
      ¬ SameStores node r.2 := by
  refine ⟨by decide, by decide, by decide, by decide, fun hsame => ?_⟩
  exact absurd (congrFun hsame.certs "cam") (by decide)

-- ── Requests and the table ───────────────────────────────────────────────────

/-- Announcing topics and answering touches no certificate. -/
theorem answerInit_deviceCerts (app : AppState) (node : Node) (request : DeviceInitRequest)
    (certPem : String) (o : InitOutcome) :
    (answerInit app node request certPem o).2.deviceCerts = node.deviceCerts := by
  have hsend : ∀ (node : Node) closed c,
      (trySend node closed c).deviceCerts = node.deviceCerts := by
    intro node closed c
    rw [trySend]
    split <;> rfl
  show (announceTopics app node o).deviceCerts = _
  rw [announceTopics]
  split
  · exact (hsend _ _ _).trans (hsend _ _ _)
  · rfl

/-- What a request does to the table: it stores the row that it gets issued. -/
theorem deviceCerts_dispatch (gw : GatewayState) (node : Node) (req : HttpRequest)
    (o : DispatchOutcome) :
    (dispatch gw node req o).2.deviceCerts = withRow node.deviceCerts (issued gw req o) := by
  rw [dispatch, issued]
  split
  · rfl
  · split
    · have hend := handleDeviceInit_end gw.app node req.init o.calls
      generalize handleDeviceInit gw.app node req.init o.calls = x at hend ⊢
      cases hend with
      | refused r hreq => rw [hreq]; rfl
      | unsigned request hreq hrow => rw [hreq, hrow]; rfl
      | answered request row node' hreq hrow hcerts hdone =>
          rw [hreq, hrow, answerInit_deviceCerts, hcerts]
          rfl
      | unrecorded request row config left node' hreq hrow hbroker hfails hcerts hfiles hqueue =>
          rw [hreq, hrow]
          exact hcerts
    · split
      · have hend := handleClientRegister_end gw node req o
        generalize handleClientRegister gw node req o = x at hend ⊢
        cases hend with
        | refused r hreq => rw [hreq]; rfl
        | unsigned csrPem hreq hrow => rw [hreq, hrow]; rfl
        | answered csrPem row r hreq hrow hstatus => rw [hreq, hrow]; rfl
      · cases o.forward with
        | ok r => rfl
        | error e => rfl

/-- A certificate that is issued is not revoked. -/
theorem issued_not_revoked {gw : GatewayState} {req : HttpRequest} {o : DispatchOutcome}
    {id : String} {row : DeviceCert} (h : issued gw req o = some (id, row)) :
    row.revoked = false := by
  have hsigned : ∀ {id' : String}, (signedRow gw.app o.calls).map (fun row => (id', row)) =
      some (id, row) → row.revoked = false := by
    intro id' hmap
    obtain ⟨row', hrow', heq⟩ := Option.map_eq_some_iff.mp hmap
    cases heq
    exact (signCsr_some hrow' (Node.start (fun _ => none) fun _ => none) id).2.2
  rw [issued] at h
  split at h
  · exact nomatch h
  · split at h
    · cases hreq : processRequest req.init with
      | error r => rw [hreq] at h; exact nomatch h
      | ok request => rw [hreq] at h; exact hsigned h
    · split at h
      · cases hreq : processRegister req with
        | error r => rw [hreq] at h; exact nomatch h
        | ok csrPem => rw [hreq] at h; exact hsigned h
      · exact nomatch h

-- ── Revocation along a run ───────────────────────────────────────────────────

/-- `CaService::revoke` on a node. -/
def revoke (node : Node) (d : String) (update : Except String Unit) : Except String Unit × Node :=
  match update with
  | .error e => (.error ("Failed to revoke device cert: " ++ e), node)
  | .ok () =>
      match node.deviceCerts d with
      | none => (.error ("Unknown device: " ++ d), node)
      | some row =>
          (.ok (), { node with
            deviceCerts := Function.update node.deviceCerts d (some { row with revoked := true }) })

/-- `CaService::is_revoked` on a node. -/
def isRevoked (node : Node) (d : String) (query : Except String Unit) : Except String Bool :=
  match query with
  | .error e => .error ("Failed to query revocation status: " ++ e)
  | .ok () => .ok (((node.deviceCerts d).map DeviceCert.revoked).getD false)

/-- Both are what the statements do to the table. -/
theorem revoke_table {node : Node} {t : DeviceCerts} (ht : node.deviceCerts = lookup t) (d : String)
    (update : Except String Unit) :
    (revoke node d update).1 = (HamletDeviceCert.revoke t d update).1 ∧
      (revoke node d update).2.deviceCerts = lookup (HamletDeviceCert.revoke t d update).2 := by
  cases update with
  | error e => exact ⟨rfl, ht⟩
  | ok u =>
      have hrow : node.deviceCerts d = (t.find? d).map CertRow.cert := congrFun ht d
      rw [revoke]
      rcases revoke_cases t d (.ok u) with ⟨hwhy, e, heq⟩ | ⟨-, ⟨r, hr⟩, heq⟩
      · have hnone : t.find? d = none := hwhy.resolve_left fun hne => hne rfl
        rw [hnone] at hrow
        rw [hrow, HamletDeviceCert.revoke,
          if_pos ((rowsAffected_eq_zero_iff t d).mpr hnone), setRevoked_of_unknown t hnone]
        exact ⟨rfl, ht⟩
      · rw [hr] at hrow
        rw [hrow, heq]
        refine ⟨rfl, ?_⟩
        show _ = lookup (setRevoked t d)
        rw [lookup_setRevoked, ← ht, hrow]
        rfl

theorem isRevoked_table {node : Node} {t : DeviceCerts} (ht : node.deviceCerts = lookup t)
    (d : String) (query : Except String Unit) :
    isRevoked node d query = HamletDeviceCert.isRevoked t d query := by
  cases query with
  | error e => rfl
  | ok u =>
      have hrow : node.deviceCerts d = (t.find? d).map CertRow.cert := congrFun ht d
      rw [isRevoked, HamletDeviceCert.isRevoked, hrow, Option.map_map]
      rfl

theorem isRevoked_iff {node : Node} {d : String} :
    isRevoked node d (.ok ()) = .ok true ↔
      ∃ row, node.deviceCerts d = some row ∧ row.revoked = true := by
  rw [isRevoked]
  cases node.deviceCerts d with
  | none => simp
  | some row => simp

/-- One request: the device stays revoked unless it gets a certificate. -/
theorem isRevoked_dispatch_iff (gw : GatewayState) (node : Node) (req : HttpRequest)
    (o : DispatchOutcome) (d : String) :
    isRevoked (dispatch gw node req o).2 d (.ok ()) = .ok true ↔
      (∀ row, issued gw req o ≠ some (d, row)) ∧ isRevoked node d (.ok ()) = .ok true := by
  rw [isRevoked_iff, isRevoked_iff, deviceCerts_dispatch]
  cases hissued : issued gw req o with
  | none => simp [withRow]
  | some x =>
      obtain ⟨id, new⟩ := x
      by_cases hd : d = id
      · subst hd
        have hnew := issued_not_revoked hissued
        simp [withRow, hnew]
      · have hother : ∀ row, some (id, new) ≠ some (d, row) := by
          intro row heq
          exact hd (Prod.mk.inj (Option.some.inj heq)).1.symm
        rw [withRow, Function.update_of_ne hd]
        exact ⟨fun h => ⟨hother, h⟩, fun h => h.2⟩

/-- Any number of them. -/
theorem isRevoked_dispatchAll_iff (gw : GatewayState) (d : String)
    (reqs : List (HttpRequest × DispatchOutcome)) (node : Node) :
    isRevoked (dispatchAll gw node reqs) d (.ok ()) = .ok true ↔
      (∀ x ∈ reqs, ∀ row, issued gw x.1 x.2 ≠ some (d, row)) ∧
        isRevoked node d (.ok ()) = .ok true := by
  induction reqs generalizing node with
  | nil => simp [dispatchAll]
  | cons x reqs ih =>
      rw [dispatchAll, List.foldl_cons, ← dispatchAll, ih, isRevoked_dispatch_iff, ← and_assoc,
        List.forall_mem_cons, and_comm (a := ∀ x ∈ reqs, _)]

/-- **Revocation and requests.** From every state in which `revoke` has returned `Ok` for a device:
    after any sequence of requests the device is still revoked if and only if none of them got a
    certificate issued under its id. -/
theorem revocation_survives_iff (gw : GatewayState) (node node' : Node) (d : String)
    (update : Except String Unit) (hrev : revoke node d update = (.ok (), node'))
    (reqs : List (HttpRequest × DispatchOutcome)) :
    isRevoked (dispatchAll gw node' reqs) d (.ok ()) = .ok true ↔
      ∀ x ∈ reqs, ∀ row, issued gw x.1 x.2 ≠ some (d, row) := by
  have hnow : isRevoked node' d (.ok ()) = .ok true := by
    cases update with
    | error e => exact nomatch congrArg Prod.fst hrev
    | ok u =>
        rw [revoke] at hrev
        cases hrow : node.deviceCerts d with
        | none => rw [hrow] at hrev; exact nomatch congrArg Prod.fst hrev
        | some row =>
            rw [hrow] at hrev
            obtain rfl := (Prod.mk.inj hrev).2
            exact isRevoked_iff.mpr ⟨_, Function.update_self .., rfl⟩
  rw [isRevoked_dispatchAll_iff]
  exact ⟨fun h => h.1, fun h => ⟨h, hnow⟩⟩

/-- A node that knows the device `cam`. -/
def nodeWithCam : Node :=
  .start (fun d => if d = "cam" then some ⟨"old cert", 0, 31536000, false⟩ else none) defaultFiles

theorem revocation_survives_otherDevice :
    let node' := (revoke nodeWithCam "cam" (.ok ())).2
    let reqs := [handshakeOf "door" .written,
      handshakeOf "ca" (.failed "Read-only file system" none)]
    (∀ x ∈ reqs, ∀ row, issued defaultGateway x.1 x.2 ≠ some ("cam", row)) ∧
      isRevoked (dispatchAll defaultGateway node' reqs) "cam" (.ok ()) = .ok true := by
  intro node' reqs
  have hids : ∀ x ∈ reqs, (issued defaultGateway x.1 x.2).map Prod.fst ≠ some "cam" := by decide
  have hother : ∀ x ∈ reqs, ∀ row, issued defaultGateway x.1 x.2 ≠ some ("cam", row) := by
    intro x hx row heq
    exact hids x hx (congrArg (Option.map Prod.fst) heq)
  exact ⟨hother, (revocation_survives_iff defaultGateway nodeWithCam node' "cam" (.ok ()) rfl
    reqs).mpr hother⟩

/-- **A revoked device asks again, and is not revoked.** -/
theorem handshake_undoes_revocation :
    let r := revoke nodeWithCam "cam" (.ok ())
    r.1 = .ok () ∧ isRevoked r.2 "cam" (.ok ()) = .ok true ∧
      isRevoked (dispatchAll defaultGateway r.2 [handshakeOf "cam" .written]) "cam" (.ok ()) =
        .ok false := by
  exact ⟨rfl, by decide, by decide⟩

end HamletDispatch
