import Mathlib.Data.List.DropRight
import Hamlet.ServiceProofs
import Hamlet.Lib.BackoffProofs
import Hamlet.Lib.EventRunProofs
import Hamlet.Lib.HistoryProofs

/-!
# The connection task of the MQTT gateway client

`spawn_connection_task` of `gateway_mqtt` owns the whole cycle: log in, build an MQTT connection
from the answer, serve it, and back off after every failure. The task is a step function on where
it stands, the backoff delay, the cached login and the outbound queue. Two things outside the task
are taken with what it relies on:

* the request queue of `rumqttc`: `AsyncClient::publish` and `subscribe` check the topic, then wait
  for room in a queue of ten; only `EventLoop::poll`, called by this same task, empties it, and not
  before the connection is established; queue and unacknowledged publishes live in the pair
  (`Link`) and go with it;
* `login`, whose answer is an event.

This file has the task and two results about its outer loop:

* `login_iff_no_cached_login` — an iteration logs in exactly when no login has succeeded since the
  last refusal, and every connection is built from the MOST RECENT successful login;
* `one_wait_per_attempt` — one backoff between two attempts, with the closed form of its length.
-/

namespace HamletGatewayMqtt

open HamletConfig HamletService EventRun History

/-- `INITIAL_RECONNECT_DELAY`, in seconds. -/
def initialReconnectDelay : ℕ := 2

/-- `MAX_RECONNECT_DELAY`, in seconds. -/
def maxReconnectDelay : ℕ := 60

/-- `OUTBOUND_CAPACITY` of the service. -/
def outboundCapacity : ℕ := 64

/-- The capacity `AsyncClient::new` is called with. -/
def requestCapacity : ℕ := 10

structure LoginRequest where
  username : String
  password : String
  deriving DecidableEq, Repr

structure BrokerInfo where
  host : String
  port : ℕ
  deriving DecidableEq, Repr

structure DeviceTopics where
  cmds    : String
  connect : String
  notify  : String
  deriving DecidableEq, Repr

structure LoginResponse where
  protocolVersion : String
  deviceId        : String
  mqttUsername    : String
  mqttPassword    : String
  broker          : BrokerInfo
  topics          : DeviceTopics
  deriving DecidableEq, Repr

inductive Envelope where
  | alive (deviceId : String)
  deriving DecidableEq, Repr

structure MqttMessage where
  topic   : String
  payload : List UInt8
  deriving DecidableEq, Repr

/-- A request of the client, always at least once and never retained: the two kinds of publish are
    told apart by where they come from. -/
inductive Request where
  | subscribe (topic : String)
  | alive (msg : MqttMessage)
  | outbound (msg : MqttMessage)
  deriving DecidableEq, Repr

/-- What the task is spawned with, `serde_json::to_vec`, and the topic checks of `rumqttc`. -/
structure Task where
  config      : GatewayMqttConfig
  toVec       : Envelope → Except String (List UInt8)
  validTopic  : String → Bool
  validFilter : String → Bool

/-- The check a request meets before it waits for room. -/
def Request.valid (task : Task) : Request → Bool
  | .subscribe topic => task.validFilter topic
  | .alive msg       => task.validTopic msg.topic
  | .outbound msg    => task.validTopic msg.topic

/-- The publishes stay with the client until they are acknowledged. -/
def Request.publish? : Request → Option Request
  | .subscribe _ => none
  | req => some req

/-- `LoginRequest` of this node. -/
def loginRequest (task : Task) : LoginRequest := ⟨task.config.username, task.config.password⟩

/-- The connection that is built from a login response. -/
def clientConfig (task : Task) (creds : LoginResponse) : MqttClientConfig where
  clientId := creds.deviceId
  host     := creds.broker.host
  port     := creds.broker.port
  tlsMode  := if task.config.brokerTls then .serverOnly else .none
  cafile   := task.config.brokerCafile
  certfile := none
  keyfile  := none
  username := creds.mqttUsername
  password := creds.mqttPassword

/-- The options of a client for the broker of a login response. -/
def clientOptions (task : Task) (resp : LoginResponse) : MqttOptions where
  clientId    := resp.deviceId
  host        := resp.broker.host
  port        := resp.broker.port
  keepAlive   := 30
  transport   :=
    if task.config.brokerTls then .serverTls (.ofCafile task.config.brokerCafile) else .tcp
  credentials := some (resp.mqttUsername, resp.mqttPassword)

/-- What `build_mqtt_opts` returns for the connection of a login response. -/
theorem buildOptions_clientConfig {task : Task} {resp : LoginResponse} {env : Externals}
    {opts : MqttOptions} (h : buildOptions (clientConfig task resp) env = .ok opts) :
    opts = clientOptions task resp := by
  cases htls : task.config.brokerTls with
  | false =>
      simp only [buildOptions, clientConfig, htls, Bool.false_eq_true, if_false] at h
      rw [← Except.ok.inj h]
      simp [clientOptions, MqttOptions.new, htls]
  | true =>
      simp only [buildOptions, clientConfig, htls, if_true] at h
      cases hroots : buildServerTls task.config.brokerCafile env with
      | error err => rw [hroots] at h; cases h
      | ok u =>
          rw [hroots] at h
          rw [← Except.ok.inj h]
          simp [clientOptions, MqttOptions.new, htls]

theorem buildOptions_ok {task : Task} {resp : LoginResponse} {env : Externals}
    (h : buildMqttOpts (clientConfig task resp) env = .ok ()) :
    buildOptions (clientConfig task resp) env = .ok (clientOptions task resp) := by
  cases hopts : buildOptions (clientConfig task resp) env with
  | error e =>
      rw [← buildOptions_forget, hopts] at h
      exact nomatch h
  | ok opts => rw [buildOptions_clientConfig hopts]

/-- `on_connected`: the calls it makes, in order. -/
def onConnected (task : Task) (creds : LoginResponse) : List Request :=
  [.subscribe creds.topics.cmds, .subscribe creds.topics.connect] ++
    match task.toVec (.alive creds.deviceId) with
    | .ok payload => [.alive ⟨creds.topics.notify, payload⟩]
    | .error _    => []

/-- The pair `AsyncClient::new` returns: what it was built from, the request queue, and the
    publishes that were sent and not acknowledged. -/
structure Link where
  creds       : LoginResponse
  config      : MqttClientConfig
  established : Bool
  requests    : List Request
  unacked     : List Request
  deriving DecidableEq

/-- Where the task stands. -/
inductive Phase where
  /-- The top of `'reconnect`. -/
  | head
  | loggingIn (req : LoginRequest)
  /-- In `build_mqtt_opts`. -/
  | building (creds : LoginResponse)
  /-- In the `select!` of the inner loop. -/
  | running (link : Link)
  /-- In a handler of the inner loop, with these client calls to make, the first one under way. -/
  | calling (link : Link) (reqs : List Request)
  /-- In `backoff`. -/
  | waiting
  /-- In `client.disconnect()`. -/
  | disconnecting (link : Link)
  | stopped
  deriving DecidableEq

/-- A handler with no call left goes back to the `select!`. -/
def Phase.serve (link : Link) : List Request → Phase
  | []   => .running link
  | reqs => .calling link reqs

structure TaskState where
  phase    : Phase
  delay    : ℕ
  cached   : Option LoginResponse
  outbound : List MqttMessage
  deriving DecidableEq

/-- The task as it is spawned; messages may have been queued before the service was started. -/
def start (backlog : List MqttMessage) : TaskState where
  phase    := .head
  delay    := initialReconnectDelay
  cached   := none
  outbound := backlog

/-- What can happen to the task. -/
inductive Event where
  /-- `GatewayMqttHandle::publish` of some other task gets its message into the queue. -/
  | enqueue (msg : MqttMessage)
  | login
  /-- The cached response is used. -/
  | reuse
  | loginOk (resp : LoginResponse)
  | unauthorized
  | transient (err : String)
  /-- `build_mqtt_opts` returns, with these files. -/
  | options (env : Externals)
  /-- `outbound_rx.recv()` yields the message. -/
  | take (msg : MqttMessage)
  /-- A `publish` or `subscribe` call returns. -/
  | call
  /-- `poll` hands the oldest request to the network. -/
  | drain
  | connAck
  | pubAck (req : Request)
  /-- `poll` yields a publish of the broker, which is only logged, or anything else. -/
  | inbound
  /-- `poll` fails with `ConnectionRefused`. -/
  | refused
  /-- `poll` fails in another way. -/
  | connectionError
  /-- A sleep of so many seconds is over. -/
  | slept (secs : ℕ)
  | shutdown
  /-- `client.disconnect()` returns. -/
  | disconnected

/-- The task ends and drops its receiver. -/
def TaskState.stop (s : TaskState) : TaskState := { s with phase := .stopped, outbound := [] }

/-- `poll` takes a request off the queue. -/
def Link.send (link : Link) (req : Request) (rest : List Request) : Link :=
  { link with requests := rest, unacked := link.unacked ++ req.publish?.toList }

/-- `spawn_connection_task`: one step. -/
def step (task : Task) (s : TaskState) (e : Event) : Option TaskState :=
  match e, s.phase with
  | .enqueue _, .stopped => none
  | .enqueue msg, _ =>
      if s.outbound.length < outboundCapacity then
        some { s with outbound := s.outbound ++ [msg] }
      else none
  | .login, .head =>
      match s.cached with
      | none   => some { s with phase := .loggingIn (loginRequest task) }
      | some _ => none
  | .reuse, .head =>
      match s.cached with
      | none       => none
      | some creds => some { s with phase := .building creds }
  | .shutdown, .head =>
      match s.cached with
      | none   => some s.stop
      | some _ => none
  | .shutdown, .loggingIn _ => some s.stop
  | .loginOk resp, .loggingIn _ => some { s with phase := .building resp, cached := some resp }
  | .unauthorized, .loggingIn _ => some { s with phase := .waiting }
  | .transient _, .loggingIn _ => some { s with phase := .waiting }
  | .options env, .building creds =>
      match buildMqttOpts (clientConfig task creds) env with
      | .ok _    =>
          some { s with phase := .running ⟨creds, clientConfig task creds, false, [], []⟩ }
      | .error _ => some { s with phase := .waiting }
  | .take msg, .running link =>
      match s.outbound with
      | []        => none
      | m :: rest =>
          if m = msg then some { s with phase := .calling link [.outbound msg], outbound := rest }
          else none
  | .call, .calling link (req :: rest) =>
      if req.valid task then
        if link.requests.length < requestCapacity then
          some { s with phase := .serve { link with requests := link.requests ++ [req] } rest }
        else none
      else some { s with phase := .serve link rest }
  | .drain, .running link =>
      match link.requests with
      | []          => none
      | req :: rest =>
          if link.established then some { s with phase := .running (link.send req rest) } else none
  | .connAck, .running link =>
      some { s with
        phase := .serve { link with established := true } (onConnected task link.creds)
        delay := initialReconnectDelay }
  | .pubAck req, .running link =>
      if link.established ∧ req ∈ link.unacked then
        some { s with phase := .running { link with unacked := link.unacked.erase req } }
      else none
  | .inbound, .running _ => some s
  | .refused, .running _ => some { s with phase := .waiting, cached := none }
  | .connectionError, .running _ => some { s with phase := .waiting }
  | .shutdown, .running link => some { s with phase := .disconnecting link }
  | .disconnected, .disconnecting link =>
      if link.requests.length < requestCapacity then some s.stop else none
  | .slept secs, .waiting =>
      if secs = s.delay then
        some { s with phase := .head, delay := Backoff.double maxReconnectDelay s.delay }
      else none
  | .shutdown, .waiting => some s.stop
  | _, _ => none

/-- What a step can do: the step function read backwards, one rule for each way through it. -/
inductive Moves (task : Task) (s : TaskState) : Event → TaskState → Prop
  | enqueue (msg : MqttMessage) (hp : s.phase ≠ .stopped)
      (room : s.outbound.length < outboundCapacity) :
      Moves task s (.enqueue msg) { s with outbound := s.outbound ++ [msg] }
  | login (hp : s.phase = .head) (hc : s.cached = none) :
      Moves task s .login { s with phase := .loggingIn (loginRequest task) }
  | reuse (creds : LoginResponse) (hp : s.phase = .head) (hc : s.cached = some creds) :
      Moves task s .reuse { s with phase := .building creds }
  | shutdown (hp : s.phase = .head ∨ s.phase = .waiting ∨ ∃ req, s.phase = .loggingIn req) :
      Moves task s .shutdown s.stop
  | loginOk (resp : LoginResponse) (req : LoginRequest) (hp : s.phase = .loggingIn req) :
      Moves task s (.loginOk resp) { s with phase := .building resp, cached := some resp }
  | unauthorized (req : LoginRequest) (hp : s.phase = .loggingIn req) :
      Moves task s .unauthorized { s with phase := .waiting }
  | transient (err : String) (req : LoginRequest) (hp : s.phase = .loggingIn req) :
      Moves task s (.transient err) { s with phase := .waiting }
  | optionsBuilt (env : Externals) (creds : LoginResponse) (hp : s.phase = .building creds)
      (hopts : buildMqttOpts (clientConfig task creds) env = .ok ()) :
      Moves task s (.options env)
        { s with phase := .running ⟨creds, clientConfig task creds, false, [], []⟩ }
  | optionsFailed (env : Externals) (creds : LoginResponse) (err : String)
      (hp : s.phase = .building creds)
      (hopts : buildMqttOpts (clientConfig task creds) env = .error err) :
      Moves task s (.options env) { s with phase := .waiting }
  | take (msg : MqttMessage) (rest : List MqttMessage) (link : Link) (hp : s.phase = .running link)
      (hq : s.outbound = msg :: rest) :
      Moves task s (.take msg) { s with phase := .calling link [.outbound msg], outbound := rest }
  | accepted (link : Link) (req : Request) (rest : List Request)
      (hp : s.phase = .calling link (req :: rest)) (hvalid : req.valid task = true)
      (room : link.requests.length < requestCapacity) :
      Moves task s .call
        { s with phase := .serve { link with requests := link.requests ++ [req] } rest }
  | rejected (link : Link) (req : Request) (rest : List Request)
      (hp : s.phase = .calling link (req :: rest)) (hvalid : req.valid task = false) :
      Moves task s .call { s with phase := .serve link rest }
  | drain (link : Link) (req : Request) (rest : List Request) (hp : s.phase = .running link)
      (hq : link.requests = req :: rest) (hup : link.established = true) :
      Moves task s .drain { s with phase := .running (link.send req rest) }
  | connAck (link : Link) (hp : s.phase = .running link) :
      Moves task s .connAck
        { s with
          phase := .serve { link with established := true } (onConnected task link.creds)
          delay := initialReconnectDelay }
  | pubAck (link : Link) (req : Request) (hp : s.phase = .running link)
      (hup : link.established = true) (hmem : req ∈ link.unacked) :
      Moves task s (.pubAck req)
        { s with phase := .running { link with unacked := link.unacked.erase req } }
  | inbound (link : Link) (hp : s.phase = .running link) : Moves task s .inbound s
  | refused (link : Link) (hp : s.phase = .running link) :
      Moves task s .refused { s with phase := .waiting, cached := none }
  | connectionError (link : Link) (hp : s.phase = .running link) :
      Moves task s .connectionError { s with phase := .waiting }
  | disconnect (link : Link) (hp : s.phase = .running link) :
      Moves task s .shutdown { s with phase := .disconnecting link }
  | disconnected (link : Link) (hp : s.phase = .disconnecting link) :
      Moves task s .disconnected s.stop
  | slept (hp : s.phase = .waiting) :
      Moves task s (.slept s.delay)
        { s with phase := .head, delay := Backoff.double maxReconnectDelay s.delay }

variable {task : Task} {s s' : TaskState} {e : Event} {es : List Event} {backlog : List MqttMessage}

theorem moves_of_step (h : step task s e = some s') : Moves task s e s' := by
  unfold step at h
  split at h
  case h_1 => cases h
  case h_2 _ msg hp =>
      split at h
      case isTrue room => cases h; exact .enqueue msg hp room
      case isFalse => cases h
  case h_3 hp =>
      split at h
      case h_1 hc => cases h; exact .login hp hc
      case h_2 => cases h
  case h_4 hp =>
      split at h
      case h_1 => cases h
      case h_2 creds hc => cases h; exact .reuse creds hp hc
  case h_5 hp =>
      split at h
      case h_1 => cases h; exact .shutdown (.inl hp)
      case h_2 => cases h
  case h_6 req hp => cases h; exact .shutdown (.inr (.inr ⟨req, hp⟩))
  case h_7 resp req hp => cases h; exact .loginOk resp req hp
  case h_8 req hp => cases h; exact .unauthorized req hp
  case h_9 err req hp => cases h; exact .transient err req hp
  case h_10 env creds hp =>
      split at h
      case h_1 hopts => cases h; exact .optionsBuilt env creds hp hopts
      case h_2 err hopts => cases h; exact .optionsFailed env creds err hp hopts
  case h_11 msg link hp =>
      split at h
      case h_1 => cases h
      case h_2 m rest hq =>
          split at h
          case isTrue hm => cases h; subst hm; exact .take m rest link hp hq
          case isFalse => cases h
  case h_12 link req rest hp =>
      split at h
      case isTrue hvalid =>
          split at h
          case isTrue room => cases h; exact .accepted link req rest hp hvalid room
          case isFalse => cases h
      case isFalse hvalid =>
          cases h
          exact .rejected link req rest hp (Bool.eq_false_iff.mpr hvalid)
  case h_13 link hp =>
      split at h
      case h_1 => cases h
      case h_2 req rest hq =>
          split at h
          case isTrue hup => cases h; exact .drain link req rest hp hq hup
          case isFalse => cases h
  case h_14 link hp => cases h; exact .connAck link hp
  case h_15 req link hp =>
      split at h
      case isTrue hmem => cases h; exact .pubAck link req hp hmem.1 hmem.2
      case isFalse => cases h
  case h_16 link hp => cases h; exact .inbound link hp
  case h_17 link hp => cases h; exact .refused link hp
  case h_18 link hp => cases h; exact .connectionError link hp
  case h_19 link hp => cases h; exact .disconnect link hp
  case h_20 link hp =>
      split at h
      case isTrue => cases h; exact .disconnected link hp
      case isFalse => cases h
  case h_21 secs hp =>
      split at h
      case isTrue hsecs => cases h; subst hsecs; exact .slept hp
      case isFalse => cases h
  case h_22 hp => cases h; exact .shutdown (.inr (.inl hp))
  case h_23 => cases h

-- ── Which credentials are used ───────────────────────────────────────────────

/-- The client and event loop the task holds. -/
def Phase.link? : Phase → Option Link
  | .running link       => some link
  | .calling link _     => some link
  | .disconnecting link => some link
  | _ => none

/-- The login response an iteration works with. -/
def Phase.creds? : Phase → Option LoginResponse
  | .building creds => some creds
  | phase => phase.link?.map Link.creds

@[simp] theorem link?_serve (link : Link) (reqs : List Request) :
    (Phase.serve link reqs).link? = some link := by
  cases reqs <;> rfl

theorem creds?_of_link? {p : Phase} {link : Link} (h : p.link? = some link) :
    p.creds? = some link.creds := by
  cases p with
  | running k | calling k reqs | disconnecting k =>
      obtain rfl : k = link := Option.some.inj h
      rfl
  | head | loggingIn req | building creds | waiting | stopped => cases h

/-- A login has succeeded. -/
def Event.IsLoginOk (e : Event) : Prop := ∃ resp, e = .loginOk resp

/-- A login has succeeded and no connection was refused since. -/
def LoggedIn (es : List Event) : Prop := Since Event.IsLoginOk (· = .refused) es

/-- `resp` is the answer of the most recent successful login. -/
def LastLogin (resp : LoginResponse) (es : List Event) : Prop :=
  Since (· = .loginOk resp) Event.IsLoginOk es

/-- The connection was set up with the options of its login response. -/
def Built (task : Task) (es : List Event) (link : Link) : Prop :=
  link.config = clientConfig task link.creds ∧
    ∃ env, .options env ∈ es ∧ buildOptions link.config env = .ok (clientOptions task link.creds)

theorem Built.concat {link : Link} (h : Built task es link) (e : Event) :
    Built task (es ++ [e]) link := by
  obtain ⟨hconfig, env, hmem, hopts⟩ := h
  exact ⟨hconfig, env, List.mem_append_left _ hmem, hopts⟩

/-- What the history says about the cache and about the connection in use. -/
structure Credentials (task : Task) (es : List Event) (s : TaskState) : Prop where
  missing : s.cached = none → ¬ LoggedIn es
  present : ∀ creds, s.cached = some creds → LoggedIn es ∧ LastLogin creds es
  inUse   : ∀ creds, s.phase.creds? = some creds → s.cached = some creds
  built   : ∀ link, s.phase.link? = some link → Built task es link

/-- A step that neither logs in nor is refused leaves the cache alone. -/
theorem Credentials.keep (h : Credentials task es s) (hlogin : ¬ e.IsLoginOk)
    (hrefused : e ≠ .refused) (hc : s'.cached = s.cached)
    (huse : ∀ creds, s'.phase.creds? = some creds → s.cached = some creds)
    (hbuilt : ∀ link, s'.phase.link? = some link → Built task (es ++ [e]) link) :
    Credentials task (es ++ [e]) s' where
  missing hn := by
    rw [LoggedIn, since_concat_of_not hlogin hrefused]
    exact h.missing (hc ▸ hn)
  present creds hs := by
    have hne : e ≠ .loginOk creds := fun he => hlogin ⟨creds, he⟩
    rw [LoggedIn, LastLogin, since_concat_of_not hlogin hrefused,
      since_concat_of_not (P := (· = .loginOk creds)) hne hlogin]
    exact h.present creds (hc ▸ hs)
  inUse creds hu := by
    rw [hc]
    exact huse creds hu
  built := hbuilt

/-- The same, when the iteration goes on with the connection it has. -/
theorem Credentials.keepLink (h : Credentials task es s) (hlogin : ¬ e.IsLoginOk)
    (hrefused : e ≠ .refused) (hc : s'.cached = s.cached) {link link' : Link}
    (hl : s.phase.link? = some link) (hl' : s'.phase.link? = some link')
    (hsame : link'.creds = link.creds) (hconfig : link'.config = link.config) :
    Credentials task (es ++ [e]) s' := by
  refine h.keep hlogin hrefused hc ?_ ?_
  · intro creds hu
    rw [creds?_of_link? hl', hsame] at hu
    exact h.inUse creds ((creds?_of_link? hl).trans hu)
  · intro k hk
    obtain rfl : link' = k := Option.some.inj (hl'.symm.trans hk)
    rw [Built, hconfig, hsame]
    exact (h.built link hl).concat e

theorem credentials_start : Credentials task [] (start backlog) where
  missing _ := not_since_nil
  present creds h := by cases h
  inUse creds h := by cases h
  built link h := by cases h

theorem Moves.credentials (h : Moves task s e s') (hc : Credentials task es s) :
    Credentials task (es ++ [e]) s' := by
  cases h with
  | enqueue msg hp room =>
      exact hc.keep (by simp [Event.IsLoginOk]) (by simp) rfl hc.inUse
        fun link hl => (hc.built link hl).concat _
  | reuse creds hp hcache =>
      refine hc.keep (by simp [Event.IsLoginOk]) (by simp) rfl ?_ (by simp [Phase.link?])
      intro creds' hu
      rw [hcache]
      exact hu
  | loginOk resp req hp =>
      refine ⟨by simp, ?_, ?_, by simp [Phase.link?]⟩
      · intro creds hs
        obtain rfl : resp = creds := Option.some.inj hs
        exact ⟨since_concat.mpr (.inl ⟨resp, rfl⟩), since_concat.mpr (.inl rfl)⟩
      · intro creds hu
        exact hu
  | refused link hp =>
      refine ⟨?_, by simp, by simp [Phase.creds?, Phase.link?], by simp [Phase.link?]⟩
      intro _ hlogged
      rcases since_concat.mp hlogged with ⟨resp, hr⟩ | ⟨-, hr⟩
      · cases hr
      · exact hr rfl
  | optionsBuilt env creds hp hopts =>
      refine hc.keep (by simp [Event.IsLoginOk]) (by simp) rfl ?_ ?_
      · intro creds' hu
        refine hc.inUse creds' ?_
        rw [hp]
        exact hu
      · intro link hl
        obtain rfl := Option.some.inj hl
        exact ⟨rfl, env, List.mem_append_right _ List.mem_cons_self, buildOptions_ok hopts⟩
  | take msg rest link hp hq | drain link req rest hp hq hup | pubAck link req hp hup hmem
  | disconnect link hp =>
      exact hc.keepLink (by simp [Event.IsLoginOk]) (by simp) rfl (congrArg Phase.link? hp) rfl
        rfl rfl
  | accepted link req rest hp hvalid room | rejected link req rest hp hvalid =>
      exact hc.keepLink (by simp [Event.IsLoginOk]) (by simp) rfl (congrArg Phase.link? hp)
        (link?_serve _ rest) rfl rfl
  | connAck link hp =>
      have hl := link?_serve { link with established := true } (onConnected task link.creds)
      exact hc.keepLink (by simp [Event.IsLoginOk]) (by simp) rfl (congrArg Phase.link? hp) hl
        rfl rfl
  | inbound link hp =>
      exact hc.keep (by simp [Event.IsLoginOk]) (by simp) rfl hc.inUse
        fun link hl => (hc.built link hl).concat _
  | login hp hcache | shutdown hp | unauthorized req hp | transient err req hp
  | optionsFailed env creds err hp hopts | connectionError link hp | disconnected link hp
  | slept hp =>
      exact hc.keep (by simp [Event.IsLoginOk]) (by simp) rfl
        (by simp [Phase.creds?, Phase.link?, TaskState.stop])
        (by simp [Phase.link?, TaskState.stop])

theorem credentials_run (h : run (step task) (start backlog) es = some s) :
    Credentials task es s := by
  refine run_induction (P := Credentials task) credentials_start ?_ es s h
  intro p d t u _ hc hstep
  exact (moves_of_step hstep).credentials hc

/-- The event is the task's own, not a sender's. -/
def Event.OfTask (e : Event) : Prop := ∀ msg, e ≠ .enqueue msg

/-- An iteration starts with a login request or with the cached response. -/
theorem Moves.at_head (h : Moves task s e s') (hp : s.phase = .head) (htask : e.OfTask)
    (hshut : e ≠ .shutdown) :
    e = .login ∧ s.cached = none ∨ e = .reuse ∧ ∃ creds, s.cached = some creds := by
  cases h with
  | enqueue msg _ _ => exact absurd rfl (htask msg)
  | login _ hc => exact .inl ⟨rfl, hc⟩
  | reuse creds _ hc => exact .inr ⟨rfl, creds, hc⟩
  | shutdown _ | disconnect _ _ => exact absurd rfl hshut
  | loginOk _ _ hq | unauthorized _ hq | transient _ _ hq | optionsBuilt _ _ hq _
  | optionsFailed _ _ _ hq _ | take _ _ _ hq _ | accepted _ _ _ hq _ _ | rejected _ _ _ hq _
  | drain _ _ _ hq _ _ | connAck _ hq | pubAck _ _ hq _ _ | inbound _ hq | refused _ hq
  | connectionError _ hq | disconnected _ hq | slept hq =>
      rw [hp] at hq
      cases hq

/-- **Credential caching.** In every run, an iteration of the reconnect loop issues a login request
    exactly when no login has succeeded since the start or since the last refusal, and otherwise
    uses the cached response; and every connection is built from the client id, host, port,
    username and password of the most recent successful login: they are in the configuration that
    `build_mqtt_opts` was called with, and in the options it returned. -/
theorem login_iff_no_cached_login (task : Task) (backlog : List MqttMessage) (es : List Event)
    (s : TaskState) (h : run (step task) (start backlog) es = some s) :
    (∀ p e q t, es = p ++ e :: q → run (step task) (start backlog) p = some t →
      t.phase = .head → e.OfTask → e ≠ .shutdown →
        (e = .login ↔ ¬ LoggedIn p) ∧ (e = .reuse ↔ LoggedIn p)) ∧
    (∀ link, s.phase.link? = some link → ∃ resp env opts, LastLogin resp es ∧
      (link.config.clientId = resp.deviceId ∧ link.config.host = resp.broker.host ∧
        link.config.port = resp.broker.port ∧ link.config.username = resp.mqttUsername ∧
        link.config.password = resp.mqttPassword) ∧
      .options env ∈ es ∧ buildOptions link.config env = .ok opts ∧
      opts.clientId = resp.deviceId ∧ opts.host = resp.broker.host ∧
      opts.port = resp.broker.port ∧
      opts.credentials = some (resp.mqttUsername, resp.mqttPassword)) := by
  constructor
  · intro p e q t hes ht hp htask hshut
    rw [hes] at h
    obtain ⟨t', u, ht', hu, -⟩ := run_split h
    obtain rfl : t = t' := Option.some.inj (ht.symm.trans ht')
    have hcreds := credentials_run ht
    rcases (moves_of_step hu).at_head hp htask hshut with ⟨rfl, hc⟩ | ⟨rfl, creds, hc⟩
    · simp [hcreds.missing hc]
    · simp [(hcreds.present creds hc).1]
  · intro link hl
    have hcreds := credentials_run h
    have hcached := hcreds.inUse link.creds (creds?_of_link? hl)
    obtain ⟨hconfig, env, hmem, hopts⟩ := hcreds.built link hl
    refine ⟨link.creds, env, clientOptions task link.creds,
      (hcreds.present link.creds hcached).2, ?_, hmem, hopts, rfl, rfl, rfl, rfl⟩
    rw [hconfig]
    exact ⟨rfl, rfl, rfl, rfl, rfl⟩

/-- `serde_json::to_vec` of the alive envelope, for a device id without escapes. -/
def plainVec : Envelope → Except String (List UInt8)
  | .alive id =>
      .ok ("\x7b\"type\":\"alive\",\"device_id\":\"" ++ id ++ "\"\x7d").toUTF8.toList

/-- The topic check of `rumqttc`: no wildcard. -/
def plainTopic (topic : String) : Bool := topic.toList.all fun c => c != '+' && c != '#'

/-- A node with a pinned CA file. -/
def pinnedTask : Task where
  config      := ⟨"https://gateway.example.com:8443", "node", "secret", some "gateway-ca.pem", true⟩
  toVec       := plainVec
  validTopic  := plainTopic
  validFilter := fun topic => plainTopic topic && topic != ""

/-- What the gateway answers to its login. -/
def deviceLogin : LoginResponse where
  protocolVersion := "1"
  deviceId        := "device-1"
  mqttUsername    := "device-1"
  mqttPassword    := "token"
  broker          := ⟨"broker.example.com", 8883⟩
  topics          := ⟨"device-1/cmds", "device-1/connect", "device-1/notify"⟩

/-- A lost connection is rebuilt from the cached response. -/
def connectionLost : List Event :=
  [.login, .loginOk deviceLogin, .options (fairWeather true), .connectionError, .slept 2, .reuse,
    .options (fairWeather true)]

theorem cached_login_after_connectionError :
    ∃ s link, run (step pinnedTask) (start []) connectionLost = some s ∧
      s.phase.link? = some link ∧ ∃ resp env opts, LastLogin resp connectionLost ∧
        (link.config.clientId = resp.deviceId ∧ link.config.host = resp.broker.host ∧
          link.config.port = resp.broker.port ∧ link.config.username = resp.mqttUsername ∧
          link.config.password = resp.mqttPassword) ∧
        .options env ∈ connectionLost ∧ buildOptions link.config env = .ok opts ∧
        opts.clientId = resp.deviceId ∧ opts.host = resp.broker.host ∧
        opts.port = resp.broker.port ∧
        opts.credentials = some (resp.mqttUsername, resp.mqttPassword) :=
  ⟨_, _, rfl, rfl, (login_iff_no_cached_login pinnedTask [] connectionLost _ rfl).2 _ rfl⟩

-- ── How attempts are spaced ──────────────────────────────────────────────────

/-- A backoff wait has run its time. -/
def Event.isSlept : Event → Bool
  | .slept _ => true
  | _ => false

def Event.isConnAck : Event → Bool
  | .connAck => true
  | _ => false

/-- An iteration goes for a connection: with a login, or with the cached response. -/
def Event.IsAttempt (e : Event) : Prop := e = .login ∨ e = .reuse

/-- The number of waits since the start or since the last ConnAck. -/
def waitsSinceConnAck (es : List Event) : ℕ :=
  (es.rtakeWhile fun e => !e.isConnAck).countP Event.isSlept

@[simp] theorem waitsSinceConnAck_nil : waitsSinceConnAck [] = 0 := rfl

theorem waitsSinceConnAck_connAck (es : List Event) : waitsSinceConnAck (es ++ [.connAck]) = 0 := by
  rw [waitsSinceConnAck, List.rtakeWhile_concat_neg _ _ _ (by simp [Event.isConnAck])]
  rfl

theorem waitsSinceConnAck_concat (he : e ≠ .connAck) (es : List Event) :
    waitsSinceConnAck (es ++ [e]) = waitsSinceConnAck es + [e].countP Event.isSlept := by
  have hack : (!e.isConnAck) = true := by
    cases e <;> first | rfl | exact absurd rfl he
  rw [waitsSinceConnAck, List.rtakeWhile_concat_pos (fun e => !e.isConnAck) es e hack,
    List.countP_append]
  rfl

theorem waitsSinceConnAck_slept (es : List Event) (d : ℕ) :
    waitsSinceConnAck (es ++ [.slept d]) = waitsSinceConnAck es + 1 :=
  waitsSinceConnAck_concat (by simp) es

/-- What the history says about the delay and about the time since the last attempt. -/
structure Paced (es : List Event) (s : TaskState) : Prop where
  delay : s.delay = Backoff.nthDelay initialReconnectDelay maxReconnectDelay (waitsSinceConnAck es)
  atHead : s.phase = .head → ∀ q, After Event.IsAttempt es q → q.countP Event.isSlept = 1
  onTheWay : s.phase ≠ .head → s.phase ≠ .stopped →
    ∀ q, After Event.IsAttempt es q → q.countP Event.isSlept = 0

/-- The stretch since the last attempt, after an event that is neither attempt nor wait. -/
theorem stretch_concat {n : ℕ} (ha : ¬ e.IsAttempt) (hs : e.isSlept = false)
    (h : ∀ q, After Event.IsAttempt es q → q.countP Event.isSlept = n) :
    ∀ q, After Event.IsAttempt (es ++ [e]) q → q.countP Event.isSlept = n := by
  intro q hq
  obtain ⟨q', hq', rfl⟩ := (after_concat_of_neg ha).mp hq
  rw [List.countP_append, h q' hq', List.countP_singleton, hs]
  rfl

/-- A step on the way: no attempt, no wait, the delay as it was. -/
theorem Paced.keep (h : Paced es s) (ha : ¬ e.IsAttempt) (hs : e.isSlept = false)
    (hack : e ≠ .connAck) (hd : s'.delay = s.delay) (hhead : s'.phase = .head → s.phase = .head)
    (hway : s'.phase ≠ .head → s'.phase ≠ .stopped → s.phase ≠ .head ∧ s.phase ≠ .stopped) :
    Paced (es ++ [e]) s' where
  delay := by
    rw [hd, h.delay, waitsSinceConnAck_concat hack, List.countP_singleton, hs]
    rfl
  atHead hp := stretch_concat ha hs (h.atHead (hhead hp))
  onTheWay hp hstop := stretch_concat ha hs (h.onTheWay (hway hp hstop).1 (hway hp hstop).2)

/-- An attempt starts the count anew. -/
theorem Paced.attempt (h : Paced es s) (ha : e.IsAttempt) (hd : s'.delay = s.delay)
    (hp : s'.phase ≠ .head) : Paced (es ++ [e]) s' where
  delay := by
    have hack : e ≠ .connAck := by rcases ha with rfl | rfl <;> simp
    have hs : e.isSlept = false := by rcases ha with rfl | rfl <;> rfl
    rw [hd, h.delay, waitsSinceConnAck_concat hack, List.countP_singleton, hs]
    rfl
  atHead hp' := absurd hp' hp
  onTheWay _ _ _ hq := by
    rw [(after_concat_of_pos ha).mp hq]
    rfl

@[simp] theorem serve_ne_head (link : Link) (reqs : List Request) :
    Phase.serve link reqs ≠ .head := by
  cases reqs <;> simp [Phase.serve]

theorem paced_start : Paced [] (start backlog) where
  delay := rfl
  atHead _ _ hq := absurd hq not_after_nil
  onTheWay hp := absurd rfl hp

theorem Moves.paced (h : Moves task s e s') (hpaced : Paced es s) : Paced (es ++ [e]) s' := by
  cases h with
  | login hp hc => exact hpaced.attempt (.inl rfl) rfl (by simp)
  | reuse creds hp hc => exact hpaced.attempt (.inr rfl) rfl (by simp)
  | enqueue msg hp room =>
      exact hpaced.keep (by simp [Event.IsAttempt]) rfl (by simp) rfl (fun h => h)
        (fun h₁ h₂ => ⟨h₁, h₂⟩)
  | connAck link hp =>
      refine ⟨?_, by simp, fun _ _ => ?_⟩
      · rw [waitsSinceConnAck_connAck]
        rfl
      · exact stretch_concat (by simp [Event.IsAttempt]) rfl
          (hpaced.onTheWay (by simp [hp]) (by simp [hp]))
  | slept hp =>
      refine ⟨?_, fun _ q hq => ?_, by simp⟩
      · rw [waitsSinceConnAck_slept, Backoff.nthDelay_succ, ← hpaced.delay]
      · obtain ⟨q', hq', rfl⟩ := (after_concat_of_neg (by simp [Event.IsAttempt])).mp hq
        rw [List.countP_append, hpaced.onTheWay (by simp [hp]) (by simp [hp]) q' hq']
        rfl
  | inbound link hp =>
      exact hpaced.keep (by simp [Event.IsAttempt]) rfl (by simp) rfl (fun h => h)
        (fun h₁ h₂ => ⟨h₁, h₂⟩)
  | shutdown hp | disconnected link hp =>
      exact hpaced.keep (by simp [Event.IsAttempt]) rfl (by simp) rfl (by simp [TaskState.stop])
        (by simp [TaskState.stop])
  | loginOk resp req hp | unauthorized req hp | transient err req hp
  | optionsBuilt env creds hp hopts | optionsFailed env creds err hp hopts
  | take msg rest link hp hq | accepted link req rest hp hvalid room
  | rejected link req rest hp hvalid | drain link req rest hp hq hup
  | pubAck link req hp hup hmem | refused link hp | connectionError link hp
  | disconnect link hp =>
      exact hpaced.keep (by simp [Event.IsAttempt]) rfl (by simp) rfl (by simp)
        (fun _ _ => by simp [hp])

theorem paced_run (h : run (step task) (start backlog) es = some s) : Paced es s := by
  refine run_induction (P := Paced) paced_start ?_ es s h
  intro p d t u _ hpaced hstep
  exact (moves_of_step hstep).paced hpaced

/-- **Backoff.** In every run, two consecutive attempts have exactly one wait between them; the
    `n`-th wait since the start or the last ConnAck lasts `min (2 * 2 ^ n) 60` seconds; the delay
    is always between 2 and 60 seconds. -/
theorem one_wait_per_attempt (task : Task) (backlog : List MqttMessage) (es : List Event)
    (s : TaskState) (h : run (step task) (start backlog) es = some s) :
    Spaced Event.IsAttempt (fun q => q.countP Event.isSlept = 1) es ∧
    (∀ p d q, es = p ++ .slept d :: q → d = min (2 * 2 ^ waitsSinceConnAck p) 60) ∧
    2 ≤ s.delay ∧ s.delay ≤ 60 := by
  have hbefore : ∀ p e q, es = p ++ e :: q →
      ∃ t u, run (step task) (start backlog) p = some t ∧ Moves task t e u := by
    intro p e q hes
    rw [hes] at h
    obtain ⟨t, u, ht, hu, -⟩ := run_split h
    exact ⟨t, u, ht, moves_of_step hu⟩
  have hclosed : ∀ {p t}, run (step task) (start backlog) p = some t →
      t.delay = min (2 * 2 ^ waitsSinceConnAck p) 60 := by
    intro p t ht
    rw [(paced_run ht).delay, Backoff.nthDelay_eq (by decide)]
    rfl
  refine ⟨?_, ?_, ?_⟩
  · intro p e r hes he q hq
    obtain ⟨t, u, ht, hmoves⟩ := hbefore p e r hes
    rcases he with rfl | rfl
    · cases hmoves with
      | login hp hc => exact (paced_run ht).atHead hp q hq
    · cases hmoves with
      | reuse creds hp hc => exact (paced_run ht).atHead hp q hq
  · intro p d q hes
    obtain ⟨t, u, ht, hmoves⟩ := hbefore p (.slept d) q hes
    cases hmoves with
    | slept hp => exact hclosed ht
  · have hone : 1 ≤ 2 ^ waitsSinceConnAck es := Nat.one_le_two_pow
    rw [hclosed h]
    omega

/-- Two waits of a run with a refused login and a failed connection. -/
theorem one_wait_per_attempt_backoff :
    Spaced Event.IsAttempt (fun q => q.countP Event.isSlept = 1)
      [.login, .unauthorized, .slept 2, .login, .loginOk deviceLogin, .options (fairWeather true),
        .connectionError, .slept 4, .reuse] :=
  (one_wait_per_attempt pinnedTask [] _ _ rfl).1

/-- A login request, or a broker connection of an iteration that used the cached response: the step
    from `t` to `u`, after the history `p`. -/
def ConnectionAttempt (p : List Event) (t u : TaskState) (e : Event) : Prop :=
  e = .login ∨ (∃ creds, t.phase = .building creds) ∧ (∃ link, u.phase = .running link) ∧
    Since (· = .reuse) (· = .login) p

/-- The event at the end of the history `p` is such an attempt. -/
def AttemptAt (task : Task) (p : List Event) (e : Event) : Prop :=
  ∃ t u, run (step task) (start []) p = some t ∧ step task t e = some u ∧
    ConnectionAttempt p t u e

/-- The pinned CA file is not there. -/
def caMissing : Externals :=
  { fairWeather true with readFile := fun _ => .error "No such file or directory (os error 2)" }

/-- Between the login and the connection, two iterations fail to build their options. -/
def twoFailedBuilds : List Event :=
  [.loginOk deviceLogin, .options caMissing, .slept 2, .reuse, .options caMissing, .slept 4, .reuse]

/-- A connection is opened by building its options, and by nothing else. -/
theorem Moves.opens (h : Moves task s e s') {creds : LoginResponse} {link : Link}
    (hp : s.phase = .building creds) (hp' : s'.phase = .running link) :
    ∃ env, e = .options env ∧ buildMqttOpts (clientConfig task creds) env = .ok () := by
  cases h with
  | optionsBuilt env creds' hq hopts =>
      obtain rfl : creds = creds' := by simpa [hp] using hq
      exact ⟨env, rfl, hopts⟩
  | enqueue msg _ room =>
      rw [show TaskState.phase _ = s.phase from rfl, hp] at hp'
      cases hp'
  -- the other steps start or end in another phase
  | _ => simp_all

/-- None of the steps between them is an attempt. -/
theorem twoFailedBuilds_no_attempt :
    ∀ q x r, twoFailedBuilds = q ++ x :: r → ¬ AttemptAt pinnedTask (.login :: q) x := by
  rintro q x r hsplit ⟨t, u, -, hu, hat⟩
  have hx : x ∈ twoFailedBuilds := by
    rw [hsplit]
    exact List.mem_append_right _ List.mem_cons_self
  rcases hat with rfl | ⟨⟨creds, hp⟩, ⟨link, hp'⟩, -⟩
  · simp [twoFailedBuilds] at hx
  · obtain ⟨env, rfl, hopts⟩ := (moves_of_step hu).opens hp hp'
    obtain rfl : env = caMissing := by simpa [twoFailedBuilds] using hx
    cases hopts

/-- Failed option building makes two waits between two consecutive attempts. -/
theorem two_waits_between_attempts :
    ¬ ∀ (task : Task) (es : List Event) (s : TaskState),
      run (step task) (start []) es = some s → ∀ p a q b r, es = p ++ a :: (q ++ b :: r) →
        AttemptAt task p a → AttemptAt task (p ++ a :: q) b →
        (∀ q' x r', q = q' ++ x :: r' → ¬ AttemptAt task (p ++ a :: q') x) →
        q.countP Event.isSlept = 1 := by
  intro h
  have hone := h pinnedTask (.login :: (twoFailedBuilds ++ [.options (fairWeather true)])) _ rfl
    [] .login twoFailedBuilds (.options (fairWeather true)) [] rfl
    ⟨_, _, rfl, rfl, .inl rfl⟩
    ⟨_, _, rfl, rfl, .inr ⟨⟨_, rfl⟩, ⟨_, rfl⟩, 
      ⟨.login :: twoFailedBuilds.dropLast, .reuse, [], rfl, rfl, by simp⟩⟩⟩
    twoFailedBuilds_no_attempt
  revert hone
  decide

end HamletGatewayMqtt
