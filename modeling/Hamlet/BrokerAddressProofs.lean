import Hamlet.DispatchProofs

/-!
# The broker address a device is told

A device finds the broker at the host it reached the gateway at: `DeviceInitRequest` takes it from
the `Host` header, and `handle_device_init` puts it in the brokerage info it returns. The header is
`host` or `host:port`, and the port has to go.

The port is cut off at the last colon, unless the value starts with a bracket: that guard keeps an
IPv6 address whole, and its port with it. `brokerHostOf_text_iff` says that exactly the bracketed
hosts with a port are missed, and `broker_address_iff` says so of the answer.
-/

namespace HamletBrokerAddress

open RustText HamletConfig HamletCloudGateway HamletHandshake HamletDispatch

-- ── Cutting off the port ─────────────────────────────────────────────────────

/-- The text before the last occurrence is the first part of `rsplit_once`. -/
theorem beforeLast_eq (s : String) (c : Char) : beforeLast s c = (rsplitOnce s c).map Prod.fst := by
  rw [beforeLast]
  cases hsplit : rsplitOnce s c with
  | none =>
      have hmem := rsplitOnce_eq_none_iff.mp hsplit
      exact if_pos (List.rdropWhile_eq_nil_iff.mpr (Split.bne_of_notMem hmem))
  | some parts =>
      obtain ⟨a, b⟩ := parts
      obtain ⟨rfl, hb⟩ := rsplitOnce_eq_some_iff.mp hsplit
      rw [toList_separated, Split.rdropWhile_append _ hb]
      simp

/-- Without a colon there is no port to cut off. -/
theorem brokerHostOf_no_colon {h : String} (hcolon : ':' ∉ h.toList) : brokerHostOf h = h := by
  rw [brokerHostOf, beforeLast_eq, rsplitOnce_eq_none_iff.mpr hcolon]
  rfl

/-- A value that starts with a bracket is taken whole. -/
theorem brokerHostOf_bracket {h : String} (hbracket : startsWith h "[" = true) :
    brokerHostOf h = h := by
  rw [brokerHostOf]
  split
  · exact if_pos hbracket
  · rfl

/-- Any other value loses what follows its last colon, and the colon. -/
theorem brokerHostOf_port {host p : String} (hp : ':' ∉ p.toList)
    (hbracket : startsWith (host ++ ":" ++ p) "[" ≠ true) :
    brokerHostOf (host ++ ":" ++ p) = host := by
  have hsplit : rsplitOnce (host ++ ":" ++ p) ':' = some (host, p) :=
    rsplitOnce_eq_some_iff.mpr ⟨rfl, hp⟩
  rw [brokerHostOf, beforeLast_eq, hsplit]
  exact if_neg hbracket

-- ── The header values a device can send ──────────────────────────────────────

/-- A `Host` value: a name or an IPv4 address, which has no colon, or an address in brackets; and
    the digits of a port. -/
structure HostHeader where
  host    : String
  port    : Option String
  host_ok : (host ≠ "" ∧ ':' ∉ host.toList) ∨ ∃ addr, host = "[" ++ addr ++ "]"
  port_ok : ∀ p ∈ port, ∀ c ∈ p.toList, c.isDigit = true

namespace HostHeader

/-- `host` or `host:port`. -/
def text (v : HostHeader) : String :=
  match v.port with
  | none   => v.host
  | some p => v.host ++ ":" ++ p

theorem host_ne_empty (v : HostHeader) : v.host ≠ "" := by
  rcases v.host_ok with hname | ⟨addr, haddr⟩
  · exact hname.1
  · rw [haddr]
    exact append_ne_empty (by decide)

/-- The first character of the value is that of the host. -/
theorem startsWith_host (v : HostHeader) (rest : String) :
    startsWith (v.host ++ rest) "[" = startsWith v.host "[" := by
  have hne : v.host.toList ≠ [] := by simpa using v.host_ne_empty
  obtain ⟨c, cs, hcs⟩ := List.exists_cons_of_ne_nil hne
  rw [startsWith, startsWith, String.toList_append, hcs]
  rfl

/-- A host without the bracket has no colon. -/
theorem colon_notMem (v : HostHeader) (h : startsWith v.host "[" ≠ true) : ':' ∉ v.host.toList := by
  rcases v.host_ok with hname | ⟨addr, haddr⟩
  · exact hname.2
  · refine absurd ?_ h
    rw [haddr, String.append_assoc]
    exact startsWith_append "[" (addr ++ "]")

theorem colon_notMem_port {v : HostHeader} {p : String} (h : v.port = some p) : ':' ∉ p.toList := by
  intro hmem
  exact absurd (v.port_ok p h ':' hmem) (by decide)

end HostHeader

/-- **Which ports are cut off**: all but those of bracketed hosts. -/
theorem brokerHostOf_text_iff (v : HostHeader) :
    brokerHostOf v.text = v.host ↔ ¬ (startsWith v.host "[" = true ∧ v.port.isSome = true) := by
  rw [HostHeader.text]
  cases hport : v.port with
  | none =>
      refine iff_of_true ?_ fun h => Bool.false_ne_true h.2
      by_cases hbracket : startsWith v.host "[" = true
      · exact brokerHostOf_bracket hbracket
      · exact brokerHostOf_no_colon (v.colon_notMem hbracket)
  | some p =>
      have hstart : startsWith (v.host ++ ":" ++ p) "[" = startsWith v.host "[" := by
        rw [String.append_assoc]
        exact v.startsWith_host (":" ++ p)
      by_cases hbracket : startsWith v.host "[" = true
      · refine iff_of_false ?_ fun h => h ⟨hbracket, rfl⟩
        show brokerHostOf (v.host ++ ":" ++ p) ≠ v.host
        rw [brokerHostOf_bracket (hstart.trans hbracket)]
        intro heq
        have hlen := congrArg String.length heq
        rw [String.length_append, String.length_append, show ":".length = 1 from rfl] at hlen
        omega
      · refine iff_of_true ?_ fun h => hbracket h.1
        exact brokerHostOf_port (HostHeader.colon_notMem_port hport) (hstart ▸ hbracket)

-- ── The answer ───────────────────────────────────────────────────────────────

/-- The `brokerage` object of an answer. -/
def brokerage? (r : Response) : Option JsonValue :=
  match r.body with
  | .json value => value.get? "brokerage"
  | .text _     => none

/-- The host is the request's broker host, and a device that is answered gets it as the address of
    the broker, next to the port of the broker's listener. -/
structure AddressReturned (c : Config) (caCertPem host : String) (request : DeviceInitRequest)
    (r : Response) : Prop where
  brokerHost : request.brokerHost = host
  brokerage  : r.status = 200 → ∃ port,
    brokerage? r = some (brokerageJson ⟨host, port, caCertPem⟩) ∧
      (listenerPorts c.mqttBrokerage.configText).head? = some (toString port)

/-- What an accepted request takes from its `Host` header. -/
theorem brokerHost_of_processRequest {req : HamletHandshake.Request} {request : DeviceInitRequest}
    {text : String} (hhost : req.header "host" = some (some text))
    (hreq : processRequest req = .ok request) : request.brokerHost = brokerHostOf text := by
  rw [processRequest] at hreq
  split at hreq
  · exact nomatch hreq
  · split at hreq
    · exact nomatch hreq
    · simp only [hhost] at hreq
      split at hreq
      · exact nomatch hreq
      · exact nomatch hreq
      · cases hreq
        rfl

/-- A successful answer has the request's broker host, and otherwise the brokerage info of the
    node. -/
theorem brokerage_of_success {app : AppState} {node : Node} {req : HamletHandshake.Request}
    {o : InitOutcome} {request : DeviceInitRequest} (hreq : processRequest req = .ok request)
    (hstatus : (handleDeviceInit app node req o).1.status = 200) :
    brokerage? (handleDeviceInit app node req o).1 =
      some (brokerageJson { app.brokerageInfo with address := request.brokerHost }) := by
  have hend := handleDeviceInit_end app node req o
  have h500 : ¬ (500 : ℕ) = 200 := by decide
  generalize handleDeviceInit app node req o = x at hend hstatus ⊢
  cases hend with
  | refused r hreq' => exact nomatch hreq.symm.trans hreq'
  | unsigned request' hreq' hrow => exact absurd hstatus h500
  | answered request' row node' hreq' hrow hcerts hdone =>
      obtain rfl := Except.ok.inj (hreq.symm.trans hreq')
      rfl
  | unrecorded request' row config left node' hreq' hrow hbroker hfails hcerts hfiles hqueue =>
      exact absurd hstatus h500

/-- **Which devices are told the right address.** For every configuration, every node and every
    accepted handshake: the host of the `Host` header, without its port, is what the device gets as
    the address of the broker, next to the broker's port, if and only if the host is not one in
    brackets with a port. -/
theorem broker_address_iff (c : Config) (caCertPem : String) (brokerAvailable : Bool) (node : Node)
    (req : HamletHandshake.Request) (o : InitOutcome) (v : HostHeader) (request : DeviceInitRequest)
    (hhost : req.header "host" = some (some v.text)) (hreq : processRequest req = .ok request) :
    AddressReturned c caCertPem v.host request
        (handleDeviceInit (.ofConfig c caCertPem brokerAvailable) node req o).1 ↔
      ¬ (startsWith v.host "[" = true ∧ v.port.isSome = true) := by
  have hbroker := brokerHost_of_processRequest hhost hreq
  rw [← brokerHostOf_text_iff]
  constructor
  · intro h
    exact hbroker.symm.trans h.brokerHost
  · intro h
    refine ⟨hbroker.trans h, ?_⟩
    intro hstatus
    refine ⟨(buildBrokerageInfo c.mqttBrokerage caCertPem).port, ?_, ?_⟩
    · rw [brokerage_of_success hreq hstatus, hbroker, h]
      rfl
    · rw [listenerPorts_configText c.mqttBrokerage caCertPem]
      rfl

/-- A handshake of a device that reaches the gateway at the given `Host`. -/
def reachedAt (host : String) : HamletHandshake.Request where
  header := fun name =>
    if name = headerInit then some (some supportedVersion)
    else if name = "host" then some (some host)
    else none
  body   := .ok (.ok ⟨"192.168.2.50", ⟨"cam", 80⟩, "csr"⟩)

/-- The request that is read from it. -/
def readAt (brokerHost : String) : DeviceInitRequest where
  version    := supportedVersion
  brokerHost := brokerHost
  device     := ⟨"192.168.2.50", ⟨"cam", 80⟩, "csr"⟩

/-- Every call of the handshake succeeds. -/
def allWell : InitOutcome where
  sign         := .ok ("device cert", 0, 31536000)
  persist      := .ok ()
  write        := .written
  beaconId     := "b1"
  topicsClosed := false

def ipv4Header : HostHeader where
  host    := "192.168.2.39"
  port    := some "8080"
  host_ok := .inl (by decide)
  port_ok := by
    intro p hp
    cases hp
    exact List.all_eq_true.mp rfl

/-- The address of the source's own comment. -/
theorem broker_address_ipv4 :
    let c := Config.fromEnv (fun _ => none) "/srv"
    let r := (handleDeviceInit (.ofConfig c "CA cert" true)
      (.start (fun _ => none) fun _ => none) (reachedAt "192.168.2.39:8080") allWell).1
    r.status = 200 ∧ AddressReturned c "CA cert" "192.168.2.39" (readAt "192.168.2.39") r := by
  intro c r
  refine ⟨by decide, ?_⟩
  exact (broker_address_iff c "CA cert" true (.start (fun _ => none) fun _ => none)
    (reachedAt "192.168.2.39:8080") allWell ipv4Header (readAt "192.168.2.39") rfl rfl).mpr
    (by decide)

def ipv6Header : HostHeader where
  host    := "[::1]"
  port    := some "8080"
  host_ok := .inr ⟨"::1", rfl⟩
  port_ok := by
    intro p hp
    cases hp
    exact List.all_eq_true.mp rfl

/-- **An IPv6 address keeps its port**: the device is sent to a host called `[::1]:8080`. -/
theorem ipv6_keeps_port :
    let c := Config.fromEnv (fun _ => none) "/srv"
    let r := (handleDeviceInit (.ofConfig c "CA cert" true)
      (.start (fun _ => none) fun _ => none) (reachedAt ipv6Header.text) allWell).1
    processRequest (reachedAt ipv6Header.text) = .ok (readAt "[::1]:8080") ∧
      brokerage? r = some (brokerageJson ⟨"[::1]:8080", 8883, "CA cert"⟩) ∧
      ¬ AddressReturned c "CA cert" ipv6Header.host (readAt "[::1]:8080") r := by
  intro c r
  have hreq : processRequest (reachedAt ipv6Header.text) = .ok (readAt "[::1]:8080") := rfl
  have hstatus : r.status = 200 := by decide
  have hinfo : { (AppState.ofConfig c "CA cert" true).brokerageInfo with
      address := (readAt "[::1]:8080").brokerHost } = ⟨"[::1]:8080", 8883, "CA cert"⟩ := by decide
  refine ⟨hreq, ?_, ?_⟩
  · rw [brokerage_of_success hreq hstatus, hinfo]
  · intro h
    exact absurd h.brokerHost (by decide)

end HamletBrokerAddress
