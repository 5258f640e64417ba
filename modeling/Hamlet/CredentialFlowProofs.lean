import Hamlet.LoginProofs
import Hamlet.StartupProofs

/-!
# Where the secrets of the gateway link go

The cloud gateway client handles two secrets: the account of the node, which it posts to
`/api/login`, and the MQTT credentials of the answer, which it presents to the broker that the
answer names. The one travels in TLS if the scheme of the gateway URL says so, the other if a switch
of its own is on; both connections verify the server against the SAME pinned CA, or the public
roots.

This module puts the connection task (`HamletGatewayMqtt`), the login call (`HamletLogin`) and
`build_mqtt_opts` together and records what leaves the node:

* `secrets_addressed` — in every run, each login request goes to the host, port and path of the
  gateway URL and carries the account, and each MQTT client presents the credentials of ONE login
  response to the broker of that response;
* `link_verified_iff` — for every environment, nothing leaves in plaintext or to an unverified
  server in any run EXACTLY when the URL is refused, or its scheme is `https` and the switch is not
  off.
-/

namespace HamletCredentialFlow

open EventRun HamletConfig HamletService HamletGatewayMqtt HamletLogin HamletStartup

-- ── The link ─────────────────────────────────────────────────────────────────

/-- What leaves the node on this link. -/
inductive Transmission where
  /-- The request of a login, with the roots if it is sent inside TLS. -/
  | login (io : Endpoint) (roots : Option Roots) (request : HttpPost)
  /-- A client and its event loop, which connects with these options. -/
  | client (opts : MqttOptions)
  deriving DecidableEq

/-- The roots the receiver is verified against; `none` in plaintext. -/
def Transmission.roots? : Transmission → Option Roots
  | .login _ roots _ => roots
  | .client opts     => opts.transport.roots?

/-- The connection task, with what it has sent so far. -/
structure Flow where
  task : TaskState
  sent : List Transmission

def Flow.start (backlog : List MqttMessage) : Flow where
  task := HamletGatewayMqtt.start backlog
  sent := []

inductive FlowEvent where
  /-- `login` returns, with these answers of the network. -/
  | answer (env : LoginEnv)
  /-- The shutdown drops a login whose request is on its way. -/
  | dropped (env : LoginEnv)
  /-- Any other event of the task. -/
  | task (e : Event)

/-- The event is the answer to a login. -/
def isLoginAnswer : Event → Bool
  | .loginOk _    => true
  | .unauthorized => true
  | .transient _  => true
  | _             => false

section Steps

variable (task : Task)

/-- The login call of the task. -/
def loginCall (env : LoginEnv) (req : LoginRequest) : LoginCall :=
  login env task.config.gatewayUrl req task.config.brokerCafile

/-- The request of a login call; an encrypted one has been verified by `tls_connector`. -/
def loginSent (env : LoginEnv) (req : LoginRequest) : List Transmission :=
  ((loginCall task env req).sent.map fun s =>
    .login s.1 (if s.1.tls then some (.ofCafile task.config.brokerCafile) else none) s.2).toList

/-- The client that an event sets up. -/
def clientSent (phase : Phase) (e : Event) : List Transmission :=
  match e, phase with
  | .options env, .building creds =>
      match buildOptions (clientConfig task creds) env with
      | .ok opts => [.client opts]
      | .error _ => []
  | _, _ => []

/-- The task takes a step, and something is sent. -/
def Flow.advance (f : Flow) (e : Event) (sent : List Transmission) : Option Flow :=
  (HamletGatewayMqtt.step task f.task e).map fun t => ⟨t, f.sent ++ sent⟩

def step (f : Flow) : FlowEvent → Option Flow
  | .answer env =>
      match f.task.phase with
      | .loggingIn req =>
          f.advance task (loginEvent (loginCall task env req).result) (loginSent task env req)
      | _ => none
  | .dropped env =>
      match f.task.phase with
      | .loggingIn req => f.advance task .shutdown (loginSent task env req)
      | _ => none
  | .task e =>
      if isLoginAnswer e then none else f.advance task e (clientSent task f.task.phase e)

end Steps

-- ── What a login sends ───────────────────────────────────────────────────────

/-- The whole request of a login, and where it goes. -/
theorem login_sent_eq {env : LoginEnv} {b : String} {req : LoginRequest} {cafile : Option String}
    {sent : Endpoint × HttpPost} (h : (login env b req cafile).sent = some sent) :
    ∃ url body, Url.parse b = .ok url ∧ env.toVec req = .ok body ∧
      sent = (⟨url.host, url.port, url.tls⟩,
        ⟨requestTarget url, url.host, "application/json", body⟩) := by
  cases hurl : Url.parse b with
  | error e =>
      rw [login, hurl] at h
      cases h
  | ok url =>
      obtain ⟨body, hr, rfl⟩ := (login_sent_iff hurl).mp h
      exact ⟨url, body, rfl, hr.encodes, rfl⟩

/-- A login succeeds only on a URL that is accepted. -/
theorem parse_of_login_ok {env : LoginEnv} {b : String} {req : LoginRequest}
    {cafile : Option String} {resp : LoginResponse}
    (h : (login env b req cafile).result = .ok resp) : ∃ url, Url.parse b = .ok url := by
  cases hurl : Url.parse b with
  | error e =>
      rw [login, hurl] at h
      cases h
  | ok url => exact ⟨url, rfl⟩

-- ── Whom the transmissions are for ───────────────────────────────────────────

/-- A login of the run returned this response. -/
def Answered (task : Task) (es : List FlowEvent) (resp : LoginResponse) : Prop :=
  ∃ env, .answer env ∈ es ∧ (loginCall task env (loginRequest task)).result = .ok resp

/-- A login of the run encoded the account of the node like this. -/
def Encoded (task : Task) (es : List FlowEvent) (body : List UInt8) : Prop :=
  ∃ env, (.answer env ∈ es ∨ .dropped env ∈ es) ∧ env.toVec (loginRequest task) = .ok body

/-- The account goes to the gateway URL, the credentials of a response to its broker. -/
def Addressed (task : Task) (es : List FlowEvent) : Transmission → Prop
  | .login io roots request =>
      ∃ url body, Url.parse task.config.gatewayUrl = .ok url ∧ Encoded task es body ∧
        io = ⟨url.host, url.port, url.tls⟩ ∧
        roots = (if url.tls then some (.ofCafile task.config.brokerCafile) else none) ∧
        request = ⟨requestTarget url, url.host, "application/json", body⟩
  | .client opts => ∃ resp, Answered task es resp ∧ opts = clientOptions task resp

variable {task : Task} {f f' : Flow} {e : FlowEvent} {es : List FlowEvent}
  {backlog : List MqttMessage}

theorem Addressed.concat {x : Transmission} (h : Addressed task es x) (e : FlowEvent) :
    Addressed task (es ++ [e]) x := by
  cases x with
  | login io roots request =>
      obtain ⟨url, body, hurl, ⟨env, hmem, hbody⟩, hrest⟩ := h
      have hmem : .answer env ∈ es ++ [e] ∨ .dropped env ∈ es ++ [e] :=
        hmem.imp (List.mem_append_left _) (List.mem_append_left _)
      exact ⟨url, body, hurl, ⟨env, hmem, hbody⟩, hrest⟩
  | client opts =>
      obtain ⟨resp, ⟨env, hmem, hok⟩, hopts⟩ := h
      exact ⟨resp, ⟨env, List.mem_append_left _ hmem, hok⟩, hopts⟩

theorem addressed_loginSent {env : LoginEnv}
    (henv : .answer env ∈ es ∨ .dropped env ∈ es) {x : Transmission}
    (hx : x ∈ loginSent task env (loginRequest task)) : Addressed task es x := by
  rw [loginSent, Option.mem_toList, Option.map_eq_some_iff] at hx
  obtain ⟨sent, hsent, rfl⟩ := hx
  obtain ⟨url, body, hurl, hbody, rfl⟩ := login_sent_eq hsent
  exact ⟨url, body, hurl, ⟨env, henv, hbody⟩, rfl, rfl, rfl⟩

/-- A client is set up from the response that the task is working with. -/
theorem mem_clientSent {phase : Phase} {e : Event} {x : Transmission}
    (hx : x ∈ clientSent task phase e) :
    ∃ resp, phase.creds? = some resp ∧ x = .client (clientOptions task resp) := by
  unfold clientSent at hx
  split at hx
  case h_1 env resp =>
      split at hx
      case h_1 opts hopts =>
          obtain rfl := List.mem_singleton.mp hx
          exact ⟨resp, rfl, congrArg _ (buildOptions_clientConfig hopts)⟩
      case h_2 => cases hx
  case h_2 => cases hx

-- ── One step, and a run ──────────────────────────────────────────────────────

/-- What a step can do. -/
theorem step_cases (h : step task f e = some f') :
    (∃ env req, e = .answer env ∧ f.task.phase = .loggingIn req ∧
      HamletGatewayMqtt.step task f.task (loginEvent (loginCall task env req).result) =
        some f'.task ∧
      f'.sent = f.sent ++ loginSent task env req) ∨
    (∃ env req, e = .dropped env ∧ f.task.phase = .loggingIn req ∧
      HamletGatewayMqtt.step task f.task .shutdown = some f'.task ∧
      f'.sent = f.sent ++ loginSent task env req) ∨
    (∃ d, e = .task d ∧ isLoginAnswer d = false ∧
      HamletGatewayMqtt.step task f.task d = some f'.task ∧
      f'.sent = f.sent ++ clientSent task f.task.phase d) := by
  cases e with
  | answer env =>
      rw [step] at h
      split at h
      case h_1 req hp =>
          obtain ⟨t, ht, rfl⟩ := Option.map_eq_some_iff.mp h
          exact .inl ⟨env, req, rfl, hp, ht, rfl⟩
      case h_2 => cases h
  | dropped env =>
      rw [step] at h
      split at h
      case h_1 req hp =>
          obtain ⟨t, ht, rfl⟩ := Option.map_eq_some_iff.mp h
          exact .inr (.inl ⟨env, req, rfl, hp, ht, rfl⟩)
      case h_2 => cases h
  | task d =>
      rw [step] at h
      split at h
      case isTrue => cases h
      case isFalse hd =>
          obtain ⟨t, ht, rfl⟩ := Option.map_eq_some_iff.mp h
          exact .inr (.inr ⟨d, rfl, Bool.eq_false_iff.mpr hd, ht, rfl⟩)

/-- The event of the task alone. -/
def FlowEvent.ofTask (task : Task) : FlowEvent → Event
  | .answer env => loginEvent (loginCall task env (loginRequest task)).result
  | .dropped _  => .shutdown
  | .task e     => e

/-- The task logs in with the account of the node only. -/
theorem loggingIn_run {es : List Event} {s : TaskState}
    (h : run (HamletGatewayMqtt.step task) (HamletGatewayMqtt.start backlog) es = some s) :
    ∀ req, s.phase = .loggingIn req → req = loginRequest task := by
  refine run_induction (P := fun _ s => ∀ req, s.phase = .loggingIn req → req = loginRequest task)
    ?_ ?_ es s h
  · intro req hp
    cases hp
  · intro _ e s s' _ ih hstep req hp
    cases moves_of_step hstep with
    | enqueue msg hp' room => exact ih req hp
    | inbound link hp' => exact ih req hp
    | login hp' hc =>
        cases hp
        rfl
    | accepted link r rest hp' hv room | rejected link r rest hp' hv =>
        cases rest <;> cases hp
    | connAck link hp' =>
        cases hreqs : onConnected task link.creds <;> rw [hreqs] at hp <;> cases hp
    | reuse creds hp' hc | shutdown hp' | loginOk resp r hp' | unauthorized r hp'
    | transient err r hp' | optionsBuilt env creds hp' ho | optionsFailed env creds err hp' ho
    | take msg rest link hp' hq | drain link r rest hp' hq hup | pubAck link r hp' hup hm
    | refused link hp' | connectionError link hp' | disconnect link hp' | disconnected link hp'
    | slept hp' => cases hp

/-- The answers of the task are those of its login calls. -/
theorem answered_of_loginOk (h : run (step task) (.start backlog) es = some f)
    {resp : LoginResponse} (hmem : .loginOk resp ∈ es.map (FlowEvent.ofTask task)) :
    Answered task es resp := by
  obtain ⟨e, he, hofTask⟩ := List.mem_map.mp hmem
  cases e with
  | answer env =>
      refine ⟨env, he, ?_⟩
      replace hofTask : loginEvent (loginCall task env (loginRequest task)).result = _ := hofTask
      cases hresult : (loginCall task env (loginRequest task)).result with
      | ok resp' =>
          rw [hresult] at hofTask
          cases hofTask
          rfl
      | error err => rw [hresult] at hofTask; cases err <;> cases hofTask
  | dropped env => cases hofTask
  | task d =>
      obtain rfl : d = .loginOk resp := hofTask
      obtain ⟨p, q, rfl⟩ := List.append_of_mem he
      obtain ⟨t, u, -, hstep, -⟩ := run_split h
      rcases step_cases hstep with ⟨env, req, heq, -⟩ | ⟨env, req, heq, -⟩ | ⟨d, heq, hd, -⟩
      · cases heq
      · cases heq
      · cases heq
        cases hd

/-- The task of a run is a run of the task alone, and all that was sent is addressed. -/
theorem flow_run (h : run (step task) (.start backlog) es = some f) :
    run (HamletGatewayMqtt.step task) (HamletGatewayMqtt.start backlog)
        (es.map (FlowEvent.ofTask task)) = some f.task ∧
      ∀ x ∈ f.sent, Addressed task es x := by
  refine run_induction (P := fun es f =>
    run (HamletGatewayMqtt.step task) (HamletGatewayMqtt.start backlog)
        (es.map (FlowEvent.ofTask task)) = some f.task ∧
      ∀ x ∈ f.sent, Addressed task es x) ⟨rfl, fun x hx => by cases hx⟩ ?_ es f h
  rintro es e f f' hflow ⟨hrun, hsent⟩ hstep
  rw [List.map_append, List.map_singleton]
  -- what was sent before stays addressed; only the new transmissions are looked at
  have hmore : ∀ {more}, f'.sent = f.sent ++ more →
      (∀ x ∈ more, Addressed task (es ++ [e]) x) → ∀ x ∈ f'.sent, Addressed task (es ++ [e]) x := by
    intro more heq hnew x hx
    rw [heq] at hx
    rcases List.mem_append.mp hx with hold | hx
    · exact (hsent x hold).concat e
    · exact hnew x hx
  rcases step_cases hstep with ⟨env, req, rfl, hp, hnext, heq⟩ | ⟨env, req, rfl, hp, hnext, heq⟩ |
    ⟨d, rfl, hd, hnext, heq⟩
  · obtain rfl := loggingIn_run hrun req hp
    refine ⟨run_concat_eq_some.mpr ⟨_, hrun, hnext⟩, hmore heq fun x hx => ?_⟩
    exact addressed_loginSent (.inl List.mem_concat_self) hx
  · obtain rfl := loggingIn_run hrun req hp
    refine ⟨run_concat_eq_some.mpr ⟨_, hrun, hnext⟩, hmore heq fun x hx => ?_⟩
    exact addressed_loginSent (.inr List.mem_concat_self) hx
  · refine ⟨run_concat_eq_some.mpr ⟨_, hrun, hnext⟩, hmore heq fun x hx => ?_⟩
    obtain ⟨resp, hresp, rfl⟩ := mem_clientSent hx
    have hcreds := credentials_run hrun
    obtain ⟨e, he, rfl⟩ := (hcreds.present resp (hcreds.inUse resp hresp)).2.exists
    obtain ⟨env, henv, hok⟩ := answered_of_loginOk hflow he
    exact ⟨resp, ⟨env, List.mem_append_left _ henv, hok⟩, rfl⟩

-- ── A gateway that answers ───────────────────────────────────────────────────

/-- `serde_json::to_vec` of an account without characters to escape. -/
def plainLogin (req : LoginRequest) : List UInt8 :=
  ("\x7b\"username\":\"" ++ req.username ++ "\",\"password\":\"" ++ req.password
    ++ "\"\x7d").toUTF8.toList

/-- A network on which every login succeeds. -/
def openGateway : LoginEnv where
  toVec         := fun req => .ok (plainLogin req)
  connect       := fun _ _ => .ok ()
  readCa        := fun _ => .ok []
  serverName    := fun _ => .ok ()
  tlsHandshake  := fun _ => .ok ()
  httpHandshake := fun _ => .ok ()
  build         := fun _ => .ok ()
  send          := fun _ _ => .ok (⟨200, "200 OK"⟩, .ok [])
  fromSlice     := fun _ => .ok deviceLogin
  lossy         := fun _ => ""

theorem login_openGateway {b : String} {url : Url} (h : Url.parse b = .ok url)
    (req : LoginRequest) (cafile : Option String) :
    login openGateway b req cafile =
      ⟨some (⟨url.host, url.port, url.tls⟩,
        ⟨requestTarget url, url.host, "application/json", plainLogin req⟩), .ok deviceLogin⟩ := by
  rw [login, h]
  cases htls : url.tls with
  | false => simp [htls, openGateway, sendRequest, readAnswer, StatusCode.isSuccess]
  | true =>
      have hca : tlsConnector openGateway cafile = .ok () := by
        cases cafile <;> rfl
      simp only [htls, hca, if_true]
      simp [openGateway, sendRequest, readAnswer, StatusCode.isSuccess]

/-- The options can always be built when the files can be read. -/
theorem buildOptions_fairWeather (task : Task) (resp : LoginResponse) :
    buildOptions (clientConfig task resp) (fairWeather true) = .ok (clientOptions task resp) := by
  have hroots : buildServerTls task.config.brokerCafile (fairWeather true) = .ok () := by
    cases task.config.brokerCafile <;> rfl
  refine buildOptions_ok ?_
  cases htls : task.config.brokerTls <;> simp [buildMqttOpts, clientConfig, htls, hroots]

/-- The first connection of a task. -/
def firstConnection : List FlowEvent :=
  [.task .login, .answer openGateway, .task (.options (fairWeather true))]

/-- A task with a URL that is accepted gets as far as an MQTT client. -/
theorem run_firstConnection (task : Task) {url : Url}
    (hurl : Url.parse task.config.gatewayUrl = .ok url) :
    ∃ f, run (step task) (.start []) firstConnection = some f ∧
      f.sent = [.login ⟨url.host, url.port, url.tls⟩
          (if url.tls then some (.ofCafile task.config.brokerCafile) else none)
          ⟨requestTarget url, url.host, "application/json", plainLogin (loginRequest task)⟩,
        .client (clientOptions task deviceLogin)] := by
  have hcall : loginCall task openGateway (loginRequest task) = _ := login_openGateway hurl _ _
  have hopts := buildOptions_fairWeather task deviceLogin
  have hbuilt : buildMqttOpts (clientConfig task deviceLogin) (fairWeather true) = .ok () := by
    rw [← buildOptions_forget, hopts]
    rfl
  let asking : TaskState :=
    { HamletGatewayMqtt.start [] with phase := .loggingIn (loginRequest task) }
  let building : TaskState :=
    { HamletGatewayMqtt.start [] with phase := .building deviceLogin, cached := some deviceLogin }
  have hlogin : step task (.start []) (.task .login) = some ⟨asking, []⟩ := rfl
  have hanswer : step task ⟨asking, []⟩ (.answer openGateway) =
      some ⟨building, loginSent task openGateway (loginRequest task)⟩ := by
    show Flow.advance task ⟨asking, []⟩
      (loginEvent (loginCall task openGateway (loginRequest task)).result) _ = _
    rw [hcall]
    rfl
  have hclient : ∀ sent, ∃ t, step task ⟨building, sent⟩ (.task (.options (fairWeather true))) =
      some ⟨t, sent ++ [.client (clientOptions task deviceLogin)]⟩ := by
    intro sent
    simp [step, isLoginAnswer, Flow.advance, building, HamletGatewayMqtt.step, hbuilt, clientSent,
      hopts]
  obtain ⟨t, hclient⟩ := hclient (loginSent task openGateway (loginRequest task))
  have hrun : run (step task) (.start []) firstConnection =
      some ⟨t, loginSent task openGateway (loginRequest task) ++
        [.client (clientOptions task deviceLogin)]⟩ := by
    rw [firstConnection, run_cons, hlogin, Option.bind_some, run_cons, hanswer, Option.bind_some,
      run_singleton, hclient]
  refine ⟨_, hrun, ?_⟩
  show loginSent task openGateway (loginRequest task) ++ _ = _
  rw [loginSent, hcall]
  rfl

-- ── Where the secrets go ─────────────────────────────────────────────────────

/-- **Where the secrets go.** In every run of the link, whatever the network answers and whenever it
    is shut down: every login request goes to the host, port and path of the gateway URL, inside TLS
    if its scheme is `https`, and carries the account of the node; and every MQTT client connects to
    the broker of a login response with the credentials of that SAME response, inside TLS if the
    switch is on. -/
theorem secrets_addressed (task : Task) (backlog : List MqttMessage) (es : List FlowEvent)
    (f : Flow) (h : run (step task) (.start backlog) es = some f) :
    (∀ io roots request, .login io roots request ∈ f.sent →
      ∃ url body, Url.parse task.config.gatewayUrl = .ok url ∧ Encoded task es body ∧
        io = ⟨url.host, url.port, url.tls⟩ ∧
        roots = (if url.tls then some (.ofCafile task.config.brokerCafile) else none) ∧
        request = ⟨requestTarget url, url.host, "application/json", body⟩) ∧
      ∀ opts, .client opts ∈ f.sent → ∃ resp, Answered task es resp ∧
        opts.host = resp.broker.host ∧ opts.port = resp.broker.port ∧
        opts.clientId = resp.deviceId ∧
        opts.credentials = some (resp.mqttUsername, resp.mqttPassword) ∧
        opts.transport =
          if task.config.brokerTls then .serverTls (.ofCafile task.config.brokerCafile)
          else .tcp := by
  constructor
  · intro io roots request hmem
    exact (flow_run h).2 _ hmem
  · intro opts hmem
    obtain ⟨resp, hresp, rfl⟩ := (flow_run h).2 _ hmem
    exact ⟨resp, hresp, rfl, rfl, rfl, rfl, rfl⟩

/-- A task that logs in once, loses its connection and connects again. -/
def reconnection : List FlowEvent :=
  firstConnection ++ [.task .connectionError, .task (.slept 2), .task .reuse,
    .task (.options (fairWeather true))]

theorem secrets_addressed_reconnection :
    ∃ f, run (step pinnedTask) (.start []) reconnection = some f ∧ f.sent.length = 3 ∧
      ∀ opts, .client opts ∈ f.sent → ∃ resp, Answered pinnedTask reconnection resp ∧
        opts.host = resp.broker.host ∧ opts.port = resp.broker.port ∧
        opts.clientId = resp.deviceId ∧
        opts.credentials = some (resp.mqttUsername, resp.mqttPassword) ∧
        opts.transport =
          if pinnedTask.config.brokerTls then .serverTls (.ofCafile pinnedTask.config.brokerCafile)
          else .tcp := by
  exact ⟨_, rfl, rfl, (secrets_addressed pinnedTask [] reconnection _ rfl).2⟩

-- ── When nothing leaves in plaintext ─────────────────────────────────────────

/-- No run of a link with this configuration sends anything in plaintext, or to a server that was
    not verified against these roots. -/
def AlwaysVerified (cfg : GatewayMqttConfig) (roots : Roots) : Prop :=
  ∀ task : Task, task.config = cfg → ∀ backlog es f,
    run (step task) (.start backlog) es = some f → ∀ x ∈ f.sent, x.roots? = some roots

/-- The scheme of an accepted URL decides about TLS. -/
theorem tls_iff {b : String} {url : Url} (h : Url.parse b = .ok url) :
    url.tls = true ↔ ∃ rest, b = "https://" ++ rest := by
  obtain ⟨p, rfl⟩ := exists_parts h
  have htls : url.tls = p.scheme.tls := by
    rw [parse_text] at h
    cases hauth : Url.splitAuthority p.scheme.tls p.text p.authority with
    | error e => rw [hauth] at h; cases h
    | ok hp =>
        rw [hauth] at h
        exact congrArg Url.tls (Except.ok.inj h).symm
  rw [htls, UrlParts.text]
  cases p.scheme with
  | https => exact iff_of_true rfl ⟨_, rfl⟩
  | http =>
      refine iff_of_false Bool.false_ne_true ?_
      rintro ⟨rest, htext⟩
      -- the fifth characters differ
      have hchar := congrArg (fun t : String => t.toList[4]?) htext
      simp [Scheme.text] at hchar

theorem alwaysVerified_iff (cfg : GatewayMqttConfig) :
    AlwaysVerified cfg (.ofCafile cfg.brokerCafile) ↔
      (∃ err, Url.parse cfg.gatewayUrl = .error err) ∨
        (∃ rest, cfg.gatewayUrl = "https://" ++ rest) ∧ cfg.brokerTls = true := by
  cases hurl : Url.parse cfg.gatewayUrl with
  | error err =>
      refine iff_of_true ?_ (.inl ⟨err, rfl⟩)
      rintro task rfl backlog es f hrun x hx
      -- nothing is sent at all
      have haddr := (flow_run hrun).2 x hx
      cases x with
      | login io roots request =>
          obtain ⟨url, body, hok, -⟩ := haddr
          cases hurl.symm.trans hok
      | client opts =>
          obtain ⟨resp, ⟨env, -, hresult⟩, -⟩ := haddr
          obtain ⟨url, hok⟩ := parse_of_login_ok hresult
          cases hurl.symm.trans hok
  | ok url =>
      rw [← tls_iff hurl]
      constructor
      · intro hall
        let task : Task := { pinnedTask with config := cfg }
        have htask : Url.parse task.config.gatewayUrl = .ok url := hurl
        obtain ⟨f, hrun, hsent⟩ := run_firstConnection task htask
        have hverified := hall task rfl [] firstConnection f hrun
        rw [hsent] at hverified
        have hlogin := hverified _ List.mem_cons_self
        have hclient := hverified _ (List.mem_cons_of_mem _ List.mem_cons_self)
        refine .inr ⟨?_, ?_⟩
        · by_contra htls
          rw [Transmission.roots?, if_neg htls] at hlogin
          cases hlogin
        · by_contra htls
          rw [Transmission.roots?, clientOptions, if_neg htls] at hclient
          cases hclient
      · rintro (⟨err, herr⟩ | ⟨htls, hswitch⟩) task rfl backlog es f hrun x hx
        · cases herr
        · have haddr := (flow_run hrun).2 x hx
          cases x with
          | login io roots request =>
              obtain ⟨url', body, hok, -, -, rfl, -⟩ := haddr
              obtain rfl : url = url' := Except.ok.inj (hurl.symm.trans hok)
              exact if_pos htls
          | client opts =>
              obtain ⟨resp, -, rfl⟩ := haddr
              rw [Transmission.roots?, clientOptions, if_pos hswitch]
              rfl

/-- **When nothing leaves in plaintext.** For every environment that enables the client: all that it
    sends, in all its runs, goes through TLS to a server that is verified against the pinned CA
    file, or the public roots if none is set, EXACTLY when the gateway URL is refused, or its scheme
    is `https` and `PLACENET_GATEWAY_MQTT_TLS` is unset or true. What the network and the HTTP and
    TLS libraries answer is free, so that a URL counts as sent to whose host only `hyper` or
    `rustls` would refuse. -/
theorem link_verified_iff (env : Env) (cfg : GatewayMqttConfig)
    (h : gatewayMqttConfig (.fromEnv env) = some cfg) :
    ∃ url, env "PLACENET_GATEWAY_URL" = some url ∧
      (AlwaysVerified cfg (.ofCafile (env "PLACENET_GATEWAY_MQTT_CAFILE")) ↔
        (∃ err, Url.parse url = .error err) ∨
          (∃ rest, url = "https://" ++ rest) ∧
            ∀ v, env "PLACENET_GATEWAY_MQTT_TLS" = some v →
              RustText.eqIgnoreAsciiCase (RustText.trim v) "true" = true) := by
  rw [gatewayMqttConfig] at h
  split at h
  case h_1 => cases h
  case h_2 url hurl =>
      split at h
      case isTrue => cases h
      case isFalse =>
          obtain rfl := Option.some.inj h
          refine ⟨url, hurl, (alwaysVerified_iff _).trans (or_congr_right (and_congr_right' ?_))⟩
          -- the switch is on unless it is set to something else
          show ((env "PLACENET_GATEWAY_MQTT_TLS").map fun v =>
            RustText.eqIgnoreAsciiCase (RustText.trim v) "true").getD true = true ↔ _
          cases env "PLACENET_GATEWAY_MQTT_TLS" with
          | none => exact iff_of_true rfl fun v hv => by cases hv
          | some v => exact ⟨fun hv v' hv' => Option.some.inj hv' ▸ hv, fun hv => hv v rfl⟩

/-- The settings of a node with an account at an `https` gateway. -/
def accountEnv : Env
  | "PLACENET_GATEWAY_URL"      => some "https://gateway.example.com:8443"
  | "PLACENET_GATEWAY_USERNAME" => some "node"
  | "PLACENET_GATEWAY_PASSWORD" => some "secret"
  | _                           => none

theorem link_verified_iff_account :
    ∃ cfg, gatewayMqttConfig (.fromEnv accountEnv) = some cfg ∧ AlwaysVerified cfg .webpki := by
  have hcfg : gatewayMqttConfig (.fromEnv accountEnv) =
      some ⟨"https://gateway.example.com:8443", "node", "secret", none, true⟩ := rfl
  obtain ⟨url, hurl, hiff⟩ := link_verified_iff accountEnv _ hcfg
  refine ⟨_, hcfg, hiff.mpr (.inr ⟨⟨"gateway.example.com:8443", ?_⟩, ?_⟩)⟩
  · rw [← Option.some.inj hurl]
    decide +kernel
  · intro v hv
    cases hv

end HamletCredentialFlow
