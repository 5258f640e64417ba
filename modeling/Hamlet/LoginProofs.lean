import Hamlet.GatewayMqttTaskProofs

/-!
# The login call of the MQTT gateway client

`login` posts the credentials to `{base_url}/api/login`. It takes the base URL apart with its own
splitter, `Url::parse`, which searches for the FIRST `://`, the first `/` after it and the LAST `:`
before that. The outcome of everything external — encoding, connecting, the TLS and HTTP
handshakes, the answer — is a field of `LoginEnv`, and a call is recorded with the request it sends.

What the splitter does is said on the parts of a URL text (`UrlParts`): `parse_text` computes it on
parts, `exists_parts` finds the parts of every accepted text. From these two:

* `login_sent_iff` — what a login sends, and that it is sent exactly when no call before it fails;
* `parse_undoes_render` — a rendered URL is parsed back, whatever occurs in its path, and trailing
  slashes of the base URL make no difference to the whole login call.
-/

namespace HamletLogin

open RustText HamletGatewayMqtt

-- ── The URL splitter ─────────────────────────────────────────────────────────

/-- `Url`. -/
structure Url where
  tls  : Bool
  host : String
  port : ℕ
  path : String
  deriving DecidableEq, Repr

namespace Url

/-- The scheme test of `Url::parse`. -/
def tlsOf (scheme : String) : Except String Bool :=
  if scheme = "https" then .ok true
  else if scheme = "http" then .ok false
  else .error ("unsupported gateway scheme '" ++ scheme ++ "'")

/-- The authority and the path, cut at the first `/`. -/
def splitPath (rest : String) : String × String :=
  match find rest '/' with
  | some i => (sliceTo rest i, sliceFrom rest i)
  | none => (rest, "/")

/-- The port of a scheme. -/
def defaultPort (tls : Bool) : ℕ := if tls then 443 else 80

/-- The host and the port, cut at the last `:`. -/
def splitAuthority (tls : Bool) (input authority : String) : Except String (String × ℕ) :=
  match rsplitOnce authority ':' with
  | some (h, p) =>
      if h ≠ "" then
        match parseU16 p with
        | some port => .ok (h, port)
        | none => .error ("invalid port in '" ++ input ++ "'")
      else .ok (authority, defaultPort tls)
  | none => .ok (authority, defaultPort tls)

/-- `Url::parse`. -/
def parse (input : String) : Except String Url :=
  match splitOnce input "://" with
  | none => .error ("invalid gateway url '" ++ input ++ "'")
  | some (scheme, rest) =>
      match tlsOf scheme with
      | .error e => .error e
      | .ok tls =>
          let (authority, path) := splitPath rest
          match splitAuthority tls input authority with
          | .error e => .error e
          | .ok (host, port) => .ok { tls := tls, host := host, port := port, path := path }

end Url

-- ── The call ─────────────────────────────────────────────────────────────────

/-- `LoginError`. -/
inductive LoginError where
  | unauthorized
  | transient (msg : String)
  deriving DecidableEq, Repr

/-- Where a connection goes, and whether it is encrypted. -/
structure Endpoint where
  host : String
  port : ℕ
  tls  : Bool
  deriving DecidableEq, Repr

/-- A `POST` as `send_request` builds it. -/
structure HttpPost where
  uri         : String
  host        : String
  contentType : String
  body        : List UInt8
  deriving DecidableEq, Repr

/-- A status code and its text. -/
structure StatusCode where
  code : ℕ
  text : String
  deriving DecidableEq, Repr

/-- `StatusCode::is_success`. -/
def StatusCode.isSuccess (s : StatusCode) : Bool := 200 ≤ s.code && s.code < 300

/-- What the external calls of a login answer. -/
structure LoginEnv where
  /-- `serde_json::to_vec` on the credentials. -/
  toVec         : LoginRequest → Except String (List UInt8)
  /-- `TcpStream::connect`. -/
  connect       : String → ℕ → Except String Unit
  /-- A CA file: the certificates in it, each parsed and then added to the root store. -/
  readCa        : String → Except String (List (Except String (Except String Unit)))
  /-- `ServerName::try_from`. -/
  serverName    : String → Except String Unit
  tlsHandshake  : Endpoint → Except String Unit
  httpHandshake : Endpoint → Except String Unit
  /-- The checks of the request builder. -/
  build         : HttpPost → Except String Unit
  /-- The status of the answer, and the outcome of reading its body. -/
  send          : Endpoint → HttpPost → Except String (StatusCode × Except String (List UInt8))
  /-- `serde_json::from_slice`. -/
  fromSlice     : List UInt8 → Except String LoginResponse
  /-- `String::from_utf8_lossy`. -/
  lossy         : List UInt8 → String

/-- What a login call does: the request it sends, if it gets that far, and its result. -/
structure LoginCall where
  sent   : Option (Endpoint × HttpPost)
  result : Except LoginError LoginResponse

/-- A call that fails before anything is sent. -/
def LoginCall.failed (msg : String) : LoginCall := ⟨none, .error (.transient msg)⟩

/-- The certificates of a pinned CA, up to the first bad one. -/
def addCerts : List (Except String (Except String Unit)) → Except String Unit
  | [] => .ok ()
  | .error e :: _ => .error ("parse gateway CA: " ++ e)
  | .ok (.error e) :: _ => .error ("add gateway CA: " ++ e)
  | .ok (.ok ()) :: rest => addCerts rest

/-- `tls_connector`: without a pinned CA the bundled roots are used. -/
def tlsConnector (env : LoginEnv) (cafile : Option String) : Except String Unit :=
  match cafile with
  | none => .ok ()
  | some cafile =>
      match env.readCa cafile with
      | .error e => .error ("read gateway CA '" ++ cafile ++ "': " ++ e)
      | .ok certs => addCerts certs

/-- The end of `send_request`: the body is read before the status is looked at. -/
def readAnswer (env : LoginEnv) :
    Except String (StatusCode × Except String (List UInt8)) → Except LoginError LoginResponse
  | .error e => .error (.transient ("send request: " ++ e))
  | .ok (_, .error e) => .error (.transient ("read body: " ++ e))
  | .ok (status, .ok bytes) =>
      if status.code = 401 then .error .unauthorized
      else if !status.isSuccess then
        .error (.transient ("login returned " ++ status.text ++ ": " ++ env.lossy bytes))
      else
        match env.fromSlice bytes with
        | .error e => .error (.transient ("parse login response: " ++ e))
        | .ok resp => .ok resp

/-- `send_request`. -/
def sendRequest (env : LoginEnv) (io : Endpoint) (host path : String) (body : List UInt8) :
    LoginCall :=
  match env.httpHandshake io with
  | .error e => .failed ("http handshake: " ++ e)
  | .ok () =>
      let request : HttpPost :=
        { uri := path, host := host, contentType := "application/json", body := body }
      match env.build request with
      | .error e => .failed ("build request: " ++ e)
      | .ok () => ⟨some (io, request), readAnswer env (env.send io request)⟩

/-- The `path` of `login`. -/
def requestTarget (url : Url) : String := trimEndMatches url.path '/' ++ "/api/login"

/-- `login`. -/
def login (env : LoginEnv) (baseUrl : String) (req : LoginRequest) (cafile : Option String) :
    LoginCall :=
  match Url.parse baseUrl with
  | .error e => .failed e
  | .ok url =>
      let path := requestTarget url
      match env.toVec req with
      | .error e => .failed ("serialise login: " ++ e)
      | .ok body =>
          match env.connect url.host url.port with
          | .error e =>
              .failed ("connect " ++ url.host ++ ":" ++ toString url.port ++ ": " ++ e)
          | .ok () =>
              if url.tls then
                match tlsConnector env cafile with
                | .error e => .failed e
                | .ok () =>
                    match env.serverName url.host with
                    | .error e => .failed ("invalid server name: " ++ e)
                    | .ok () =>
                        match env.tlsHandshake ⟨url.host, url.port, true⟩ with
                        | .error e => .failed ("tls handshake: " ++ e)
                        | .ok () => sendRequest env ⟨url.host, url.port, true⟩ url.host path body
              else sendRequest env ⟨url.host, url.port, false⟩ url.host path body

-- ── The parts of a URL text ──────────────────────────────────────────────────

/-- The schemes of a gateway URL. -/
inductive Scheme where
  | http | https
  deriving DecidableEq, Repr

def Scheme.text : Scheme → String
  | .http  => "http"
  | .https => "https"

def Scheme.tls : Scheme → Bool
  | .http  => false
  | .https => true

/-- A text `scheme://authority/path`: the authority ends at the first slash. -/
structure UrlParts where
  scheme             : Scheme
  authority          : String
  path               : String
  authority_no_slash : '/' ∉ authority.toList
  path_begins        : Split.Begins '/' path.toList

namespace UrlParts

def text (p : UrlParts) : String := p.scheme.text ++ "://" ++ (p.authority ++ p.path)

/-- The path of the parsed URL. -/
def pathOrRoot (p : UrlParts) : String := if p.path = "" then "/" else p.path

end UrlParts

theorem splitOnce_scheme (s : Scheme) (rest : String) :
    splitOnce (s.text ++ "://" ++ rest) "://" = some (s.text, rest) := by
  have hcolon : ':' ∉ s.text.toList := by cases s <;> decide
  exact splitOnce_append (c := ':') rfl hcolon rest

theorem tlsOf_text (s : Scheme) : Url.tlsOf s.text = .ok s.tls := by
  cases s <;> rfl

/-- Only the two schemes pass the scheme test. -/
theorem exists_scheme {scheme : String} {tls : Bool} (h : Url.tlsOf scheme = .ok tls) :
    ∃ s : Scheme, scheme = s.text := by
  rw [Url.tlsOf] at h
  split at h
  case isTrue hs => exact ⟨.https, hs⟩
  case isFalse =>
      split at h
      case isTrue hs => exact ⟨.http, hs⟩
      case isFalse => exact nomatch h

theorem splitPath_parts (p : UrlParts) :
    Url.splitPath (p.authority ++ p.path) = (p.authority, p.pathOrRoot) := by
  rw [Url.splitPath, UrlParts.pathOrRoot]
  rcases p.path_begins with hpath | ⟨t, hpath⟩
  · have hempty : p.path = "" := String.ext_iff.mpr hpath
    rw [hempty, String.append_empty, find_eq_none p.authority_no_slash, if_pos rfl]
  · have htext : p.path = '/'.toString ++ String.ofList t := by
      rw [String.ext_iff, hpath]
      simp
    have hne : p.path ≠ "" := by
      intro hempty
      rw [hempty] at hpath
      exact nomatch hpath
    obtain ⟨i, hfind, hto, hfrom⟩ := find_append p.authority_no_slash (String.ofList t)
    rw [← htext] at hfind hto hfrom
    rw [hfind, if_neg hne]
    simp only [hto, hfrom]

/-- **`Url::parse` on parts**: the searches find the separators between the parts, and the rest is
    decided by the authority. -/
theorem parse_text (p : UrlParts) :
    Url.parse p.text = (Url.splitAuthority p.scheme.tls p.text p.authority).map
      fun hp => ⟨p.scheme.tls, hp.1, hp.2, p.pathOrRoot⟩ := by
  rw [Url.parse, show splitOnce p.text "://" = some (p.scheme.text, p.authority ++ p.path) from
    splitOnce_scheme p.scheme (p.authority ++ p.path)]
  simp only [tlsOf_text, splitPath_parts]
  cases Url.splitAuthority p.scheme.tls p.text p.authority with
  | error e => rfl
  | ok hp => rfl

/-- Every accepted text has parts. -/
theorem exists_parts {input : String} {url : Url} (h : Url.parse input = .ok url) :
    ∃ p : UrlParts, input = p.text := by
  rw [Url.parse] at h
  cases hsplit : splitOnce input "://" with
  | none => rw [hsplit] at h; exact nomatch h
  | some parts =>
      obtain ⟨scheme, rest⟩ := parts
      rw [hsplit] at h
      simp only [] at h
      cases htls : Url.tlsOf scheme with
      | error e => rw [htls] at h; exact nomatch h
      | ok tls =>
          obtain ⟨s, rfl⟩ := exists_scheme htls
          obtain ⟨authority, path, rfl, hauth, hpath⟩ := RustText.exists_cut '/' rest
          exact ⟨⟨s, authority, path, hauth, hpath⟩, eq_of_splitOnce hsplit⟩

/-- The parts of a text are determined by it. -/
theorem text_injective {p q : UrlParts} (h : p.text = q.text) :
    p.scheme.text = q.scheme.text ∧ p.authority = q.authority ∧ p.path = q.path := by
  have hsplit := splitOnce_scheme p.scheme (p.authority ++ p.path)
  rw [show p.scheme.text ++ "://" ++ (p.authority ++ p.path) = q.text from h,
    show splitOnce q.text "://" = some (q.scheme.text, q.authority ++ q.path) from
      splitOnce_scheme q.scheme (q.authority ++ q.path)] at hsplit
  obtain ⟨hscheme, hrest⟩ := Prod.mk.injEq .. ▸ Option.some.inj hsplit
  obtain ⟨hauth, hpath⟩ := RustText.cut_unique hrest q.authority_no_slash p.authority_no_slash
    q.path_begins p.path_begins
  exact ⟨hscheme.symm, hauth.symm, hpath.symm⟩

-- ── Authorities ──────────────────────────────────────────────────────────────

theorem splitAuthority_no_colon {authority : String} (h : ':' ∉ authority.toList) (tls : Bool)
    (input : String) :
    Url.splitAuthority tls input authority = .ok (authority, Url.defaultPort tls) := by
  rw [Url.splitAuthority, rsplitOnce_eq_none_iff.mpr h]

/-- A host and a port text without a colon. -/
theorem splitAuthority_port {host p : String} (hhost : host ≠ "") (hp : ':' ∉ p.toList)
    (tls : Bool) (input : String) :
    Url.splitAuthority tls input (host ++ ":" ++ p) =
      match parseU16 p with
      | some port => .ok (host, port)
      | none => .error ("invalid port in '" ++ input ++ "'") := by
  have hsplit : rsplitOnce (host ++ ":" ++ p) ':' = some (host, p) :=
    rsplitOnce_eq_some_iff.mpr ⟨rfl, hp⟩
  rw [Url.splitAuthority, hsplit]
  exact if_pos hhost

/-- A colon at the start and none behind it: the guard fails and the WHOLE authority is the host. -/
theorem splitAuthority_no_host {p : String} (hp : ':' ∉ p.toList) (tls : Bool) (input : String) :
    Url.splitAuthority tls input (":" ++ p) = .ok (":" ++ p, Url.defaultPort tls) := by
  have hsplit : rsplitOnce (":" ++ p) ':' = some ("", p) :=
    rsplitOnce_eq_some_iff.mpr ⟨by rw [String.empty_append]; rfl, hp⟩
  rw [Url.splitAuthority, hsplit]
  exact if_neg fun h => h rfl

/-- The authorities that are accepted: without a colon, with the last colon at the start, or with a
    port behind it. -/
theorem splitAuthority_cases {tls : Bool} {input authority : String} {hp : String × ℕ}
    (h : Url.splitAuthority tls input authority = .ok hp) :
    (':' ∉ authority.toList ∧ hp = (authority, Url.defaultPort tls)) ∨
      (∃ p, authority = ":" ++ p ∧ ':' ∉ p.toList ∧ hp = (authority, Url.defaultPort tls)) ∨
      ∃ host p port, authority = host ++ ":" ++ p ∧ host ≠ "" ∧ ':' ∉ p.toList ∧
        parseU16 p = some port ∧ hp = (host, port) := by
  rw [Url.splitAuthority] at h
  cases hsplit : rsplitOnce authority ':' with
  | none =>
      rw [hsplit] at h
      exact .inl ⟨rsplitOnce_eq_none_iff.mp hsplit, (Except.ok.inj h).symm⟩
  | some parts =>
      obtain ⟨host, p⟩ := parts
      obtain ⟨hauth, hcolon⟩ := rsplitOnce_eq_some_iff.mp hsplit
      rw [hsplit] at h
      by_cases hhost : host = ""
      · simp only [hhost, ne_eq, not_true_eq_false, if_false] at h
        refine .inr (.inl ⟨p, ?_, hcolon, (Except.ok.inj h).symm⟩)
        rw [hauth, hhost, String.empty_append]
        rfl
      · simp only [ne_eq, hhost, not_false_eq_true, if_true] at h
        cases hport : parseU16 p with
        | none => rw [hport] at h; exact nomatch h
        | some port =>
            rw [hport] at h
            exact .inr (.inr ⟨host, p, port, hauth, hhost, hcolon, hport, (Except.ok.inj h).symm⟩)

/-- The input is only in the error texts. -/
theorem splitAuthority_input {tls : Bool} {input authority : String} {hp : String × ℕ}
    (h : Url.splitAuthority tls input authority = .ok hp) (input' : String) :
    Url.splitAuthority tls input' authority = .ok hp := by
  rcases splitAuthority_cases h with
    ⟨hcolon, rfl⟩ | ⟨p, rfl, hp', rfl⟩ | ⟨host, p, port, rfl, hhost, hp', hport, rfl⟩
  · exact splitAuthority_no_colon hcolon tls input'
  · exact splitAuthority_no_host hp' tls input'
  · rw [splitAuthority_port hhost hp' tls input', hport]

-- ── Trailing slashes ─────────────────────────────────────────────────────────

/-- So many slashes. -/
def slashes (n : ℕ) : String := String.ofList (List.replicate n '/')

/-- Slashes at the end of a text are slashes at the end of its path. -/
def UrlParts.addSlashes (p : UrlParts) (n : ℕ) : UrlParts where
  scheme             := p.scheme
  authority          := p.authority
  path               := p.path ++ slashes n
  authority_no_slash := p.authority_no_slash
  path_begins        := by
    rw [String.toList_append, slashes, String.toList_ofList]
    rcases p.path_begins with hpath | ⟨t, hpath⟩
    · rw [hpath]
      cases n with
      | zero => exact .inl rfl
      | succ n => exact .inr ⟨List.replicate n '/', rfl⟩
    · exact .inr ⟨t ++ List.replicate n '/', by rw [hpath, List.cons_append]⟩

theorem text_addSlashes (p : UrlParts) (n : ℕ) : (p.addSlashes n).text = p.text ++ slashes n := by
  simp only [UrlParts.text, UrlParts.addSlashes, String.append_assoc]

/-- The root path is trimmed to nothing, as the empty path is. -/
theorem trimEndMatches_pathOrRoot (p : UrlParts) :
    trimEndMatches p.pathOrRoot '/' = trimEndMatches p.path '/' := by
  rw [UrlParts.pathOrRoot]
  split
  case isTrue hempty => rw [hempty]; decide
  case isFalse => rfl

/-- What a login call takes from its base URL. -/
theorem login_congr {b b' : String} {url url' : Url} (h : Url.parse b = .ok url)
    (h' : Url.parse b' = .ok url') (htls : url.tls = url'.tls) (hhost : url.host = url'.host)
    (hport : url.port = url'.port) (htarget : requestTarget url = requestTarget url')
    (env : LoginEnv) (req : LoginRequest) (cafile : Option String) :
    login env b req cafile = login env b' req cafile := by
  simp only [login, h, h', htls, hhost, hport, htarget]

/-- **Trailing slashes make no difference**: for EVERY base URL that is accepted. -/
theorem login_slashes {b : String} {url : Url} (h : Url.parse b = .ok url) (n : ℕ) (env : LoginEnv)
    (req : LoginRequest) (cafile : Option String) :
    login env (b ++ slashes n) req cafile = login env b req cafile := by
  obtain ⟨p, rfl⟩ := exists_parts h
  have hparse := parse_text p
  rw [h] at hparse
  cases hauth : Url.splitAuthority p.scheme.tls p.text p.authority with
  | error e => rw [hauth] at hparse; exact nomatch hparse
  | ok hp =>
      rw [hauth] at hparse
      obtain rfl := Except.ok.inj hparse
      have hslashes := parse_text (p.addSlashes n)
      rw [show Url.splitAuthority (p.addSlashes n).scheme.tls (p.addSlashes n).text
        (p.addSlashes n).authority = .ok hp from splitAuthority_input hauth _,
        text_addSlashes] at hslashes
      refine login_congr hslashes h rfl rfl rfl ?_ env req cafile
      show trimEndMatches (p.addSlashes n).pathOrRoot '/' ++ "/api/login"
        = trimEndMatches p.pathOrRoot '/' ++ "/api/login"
      rw [trimEndMatches_pathOrRoot, trimEndMatches_pathOrRoot,
        show (p.addSlashes n).path = p.path ++ slashes n from rfl, slashes,
        trimEndMatches_append_replicate]

-- ── What a login sends ───────────────────────────────────────────────────────

/-- No call that a login makes before it sends its request fails. -/
structure LoginEnv.Reaches (env : LoginEnv) (url : Url) (req : LoginRequest)
    (cafile : Option String) (body : List UInt8) : Prop where
  encodes    : env.toVec req = .ok body
  connects   : env.connect url.host url.port = .ok ()
  secures    : url.tls = true → tlsConnector env cafile = .ok () ∧
    env.serverName url.host = .ok () ∧ env.tlsHandshake ⟨url.host, url.port, true⟩ = .ok ()
  handshakes : env.httpHandshake ⟨url.host, url.port, url.tls⟩ = .ok ()
  builds     : env.build ⟨requestTarget url, url.host, "application/json", body⟩ = .ok ()

theorem sendRequest_sent_iff {env : LoginEnv} {io : Endpoint} {host path : String}
    {body : List UInt8} {sent : Endpoint × HttpPost} :
    (sendRequest env io host path body).sent = some sent ↔
      env.httpHandshake io = .ok () ∧ env.build ⟨path, host, "application/json", body⟩ = .ok () ∧
        sent = (io, ⟨path, host, "application/json", body⟩) := by
  cases hhttp : env.httpHandshake io with
  | error e => simp [sendRequest, hhttp, LoginCall.failed]
  | ok u =>
      cases hbuild : env.build ⟨path, host, "application/json", body⟩ with
      | error e => simp [sendRequest, hhttp, hbuild, LoginCall.failed]
      | ok u => simp [sendRequest, hhttp, hbuild, eq_comm]

/-- **What a login sends, and when.** One request, to the host and port of the URL, at the target
    derived from its path, with the credentials as its body; and it is sent exactly when none of the
    calls before it fails. -/
theorem login_sent_iff {b : String} {url : Url} (h : Url.parse b = .ok url) {env : LoginEnv}
    {req : LoginRequest} {cafile : Option String} {sent : Endpoint × HttpPost} :
    (login env b req cafile).sent = some sent ↔
      ∃ body, env.Reaches url req cafile body ∧ sent = (⟨url.host, url.port, url.tls⟩,
        ⟨requestTarget url, url.host, "application/json", body⟩) := by
  constructor
  · intro hsent
    rw [login, h] at hsent
    cases hbody : env.toVec req with
    | error e => simp [hbody, LoginCall.failed] at hsent
    | ok body =>
        cases hconnect : env.connect url.host url.port with
        | error e => simp [hbody, hconnect, LoginCall.failed] at hsent
        | ok u =>
            simp only [hbody, hconnect] at hsent
            cases htls : url.tls with
            | false =>
                simp only [htls, Bool.false_eq_true, if_false] at hsent
                obtain ⟨hhttp, hbuild, rfl⟩ := sendRequest_sent_iff.mp hsent
                refine ⟨body, ⟨hbody, hconnect, fun hne => ?_, htls ▸ hhttp, hbuild⟩, rfl⟩
                exact nomatch hne.symm.trans htls
            | true =>
                simp only [htls, if_true] at hsent
                cases hca : tlsConnector env cafile with
                | error e => simp [hca, LoginCall.failed] at hsent
                | ok u =>
                    cases hname : env.serverName url.host with
                    | error e => simp [hca, hname, LoginCall.failed] at hsent
                    | ok u =>
                        cases hshake : env.tlsHandshake ⟨url.host, url.port, true⟩ with
                        | error e => simp [hca, hname, hshake, LoginCall.failed] at hsent
                        | ok u =>
                            simp only [hca, hname, hshake] at hsent
                            obtain ⟨hhttp, hbuild, rfl⟩ := sendRequest_sent_iff.mp hsent
                            exact ⟨body, ⟨hbody, hconnect, fun _ => ⟨hca, hname, hshake⟩,
                              htls ▸ hhttp, hbuild⟩, rfl⟩
  · rintro ⟨body, hr, rfl⟩
    have hsend := sendRequest_sent_iff.mpr ⟨hr.handshakes, hr.builds, rfl⟩
    rw [login, h]
    simp only [hr.encodes, hr.connects]
    cases htls : url.tls with
    | false =>
        rw [htls] at hsend
        exact hsend
    | true =>
        obtain ⟨hca, hname, hshake⟩ := hr.secures htls
        rw [htls] at hsend
        simp only [hca, hname, hshake, if_true]
        exact hsend

-- ── The answers in the connection task ───────────────────────────────────────

/-- What the connection task makes of the result of `login`. -/
def loginEvent : Except LoginError LoginResponse → Event
  | .ok resp                => .loginOk resp
  | .error .unauthorized    => .unauthorized
  | .error (.transient err) => .transient err

-- ── Rendered URLs ────────────────────────────────────────────────────────────

/-- The parts of a base URL: a host that is neither empty nor has a separator in it, a port, and a
    path that is empty or starts with a slash. -/
structure BaseUrl where
  scheme        : Scheme
  host          : String
  port          : Option ℕ
  path          : String
  host_nonempty : host ≠ ""
  host_no_slash : '/' ∉ host.toList
  host_no_colon : ':' ∉ host.toList
  port_bound    : ∀ n ∈ port, n ≤ 65535
  path_ok       : path = "" ∨ startsWith path "/" = true

namespace BaseUrl

/-- The text of a port behind the host. -/
def portText : Option ℕ → String
  | none   => ""
  | some n => ":" ++ toString n

/-- `scheme://host[:port]path`. -/
def render (u : BaseUrl) : String :=
  u.scheme.text ++ "://" ++ (u.host ++ portText u.port ++ u.path)

/-- What the URL means. -/
def meaning (u : BaseUrl) : Url where
  tls  := decide (u.scheme = .https)
  host := u.host
  port := u.port.getD (if u.scheme = .https then 443 else 80)
  path := if u.path = "" then "/" else u.path

theorem slash_notMem_portText (port : Option ℕ) : '/' ∉ (portText port).toList := by
  cases port with
  | none => exact List.not_mem_nil
  | some n =>
      rw [portText, String.toList_append, List.mem_append, not_or]
      exact ⟨by decide, notMem_toString (by decide) n⟩

def parts (u : BaseUrl) : UrlParts where
  scheme             := u.scheme
  authority          := u.host ++ portText u.port
  path               := u.path
  authority_no_slash := by
    rw [String.toList_append, List.mem_append, not_or]
    exact ⟨u.host_no_slash, slash_notMem_portText u.port⟩
  path_begins        := by
    rcases u.path_ok with hempty | hslash
    · exact .inl (by rw [hempty]; rfl)
    · obtain ⟨t, ht⟩ := List.isPrefixOf_iff_prefix.mp hslash
      exact .inr ⟨t, ht.symm⟩

/-- The last colon of the authority is the one before the port. -/
theorem splitAuthority_render (u : BaseUrl) (tls : Bool) (input : String) :
    Url.splitAuthority tls input (u.host ++ portText u.port) =
      .ok (u.host, u.port.getD (Url.defaultPort tls)) := by
  cases hport : u.port with
  | none =>
      rw [portText, String.append_empty, splitAuthority_no_colon u.host_no_colon]
      rfl
  | some n =>
      have hn : n < 2 ^ 16 := Nat.lt_succ_of_le (u.port_bound n hport)
      rw [portText, ← String.append_assoc, splitAuthority_port u.host_nonempty
        (notMem_toString (by decide) n), show parseU16 (toString n) = some n from
        parseUnsigned_toString hn]
      rfl

theorem parse_render (u : BaseUrl) : Url.parse u.render = .ok u.meaning := by
  rw [show u.render = u.parts.text from rfl, parse_text,
    show u.parts.authority = u.host ++ portText u.port from rfl, splitAuthority_render]
  show Except.ok _ = Except.ok _
  rw [meaning, UrlParts.pathOrRoot]
  cases hs : u.scheme <;> simp [parts, hs, Scheme.tls, Url.defaultPort]

end BaseUrl

/-- **Parsing undoes rendering.** For every base URL: the rendered text is parsed to what the URL
    means; a login request goes to that host and port, at the path without its trailing slashes
    followed by `/api/login`, and it does go there unless a call before it fails; and base URLs that
    differ only in trailing slashes make the same login call. -/
theorem parse_undoes_render (u : BaseUrl) :
    Url.parse u.render = .ok u.meaning ∧
      (∃ t n, u.path = t ++ slashes n ∧ t.toList.getLast? ≠ some '/' ∧
        requestTarget u.meaning = t ++ "/api/login" ∧
        ∀ env req cafile sent, (login env u.render req cafile).sent = some sent ↔
          ∃ body, env.Reaches u.meaning req cafile body ∧
            sent = (⟨u.meaning.host, u.meaning.port, u.meaning.tls⟩,
              ⟨t ++ "/api/login", u.meaning.host, "application/json", body⟩)) ∧
      ∀ (v : BaseUrl) (m n : ℕ), u.render ++ slashes m = v.render ++ slashes n →
        ∀ env req cafile, login env u.render req cafile = login env v.render req cafile := by
  refine ⟨u.parse_render, ?_, ?_⟩
  · obtain ⟨t, n, hpath, ht⟩ := exists_trimmed '/' u.path
    have htarget : requestTarget u.meaning = t ++ "/api/login" := by
      show trimEndMatches u.parts.pathOrRoot '/' ++ "/api/login" = t ++ "/api/login"
      rw [trimEndMatches_pathOrRoot, show u.parts.path = _ from hpath, trimEndMatches_replicate ht]
    refine ⟨t, n, hpath, ht, htarget, ?_⟩
    intro env req cafile sent
    rw [← htarget]
    exact login_sent_iff u.parse_render
  · intro v m n htext env req cafile
    calc login env u.render req cafile
        = login env (u.render ++ slashes m) req cafile :=
          (login_slashes u.parse_render m env req cafile).symm
      _ = login env (v.render ++ slashes n) req cafile := by rw [htext]
      _ = login env v.render req cafile := login_slashes v.parse_render n env req cafile

example : Url.parse "https://gw:8443/a://b:1//" = .ok ⟨true, "gw", 8443, "/a://b:1//"⟩ := by
  decide

end HamletLogin
