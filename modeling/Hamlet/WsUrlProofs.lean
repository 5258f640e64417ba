import Hamlet.CloudGatewayProofs

/-!
# The endpoint of a gateway URL

`compute_ws_url` works on the raw text of a gateway URL: it trims slashes, swaps the scheme and
appends `/ws` unless the text ends in it already. What it is FOR is said on the parts of a URL:
`GatewayUrl.endpoint` swaps the scheme and puts the segment `ws` at the end of the path unless it
is there.

The two agree except where the text cannot tell a segment from the authority. In `http://ws` the
last slash of the scheme and the authority read `/ws`, so nothing is appended:
`computeWsUrl_eq_endpoint_iff` says that this is the ONLY URL with the wrong endpoint, up to its
scheme and its trailing slashes.
-/

namespace HamletCloudGateway

open RustText

inductive Scheme where
  | http | https | ws | wss
  deriving DecidableEq, Repr

def Scheme.text : Scheme → String
  | .http  => "http"
  | .https => "https"
  | .ws    => "ws"
  | .wss   => "wss"

/-- The WebSocket scheme that goes with a scheme. -/
def Scheme.socket : Scheme → Scheme
  | .http  => .ws
  | .https => .wss
  | .ws    => .ws
  | .wss   => .wss

/-- The path with the given segments. -/
def pathText : List String → String
  | []          => ""
  | seg :: segs => "/" ++ seg ++ pathText segs

/-- The parts of a gateway URL: a non-empty authority and any number of non-empty segments, none
    of them with a slash in it. -/
structure GatewayUrl where
  scheme             : Scheme
  authority          : String
  path               : List String
  authority_nonempty : authority ≠ ""
  authority_no_slash : '/' ∉ authority.toList
  segments_ok        : ∀ seg ∈ path, seg ≠ "" ∧ '/' ∉ seg.toList

namespace GatewayUrl

/-- The text of the URL. -/
def render (u : GatewayUrl) : String :=
  u.scheme.text ++ "://" ++ (u.authority ++ pathText u.path)

/-- The path of the WebSocket endpoint: the segment `ws` at the end, once. -/
def wsPath (path : List String) : List String :=
  if path.getLast? = some "ws" then path else path ++ ["ws"]

theorem wsPath_ok {path : List String} (h : ∀ seg ∈ path, seg ≠ "" ∧ '/' ∉ seg.toList) :
    ∀ seg ∈ wsPath path, seg ≠ "" ∧ '/' ∉ seg.toList := by
  intro seg hseg
  rw [wsPath] at hseg
  split at hseg
  case isTrue => exact h seg hseg
  case isFalse =>
      rcases List.mem_append.mp hseg with hseg | hseg
      · exact h seg hseg
      · rw [List.mem_singleton.mp hseg]
        decide

theorem getLast?_wsPath (path : List String) : (wsPath path).getLast? = some "ws" := by
  rw [wsPath]
  split
  case isTrue h => exact h
  case isFalse => exact List.getLast?_concat

/-- What the URL is for: the WebSocket endpoint under it. -/
def endpoint (u : GatewayUrl) : GatewayUrl where
  scheme             := u.scheme.socket
  authority          := u.authority
  path               := wsPath u.path
  authority_nonempty := u.authority_nonempty
  authority_no_slash := u.authority_no_slash
  segments_ok        := wsPath_ok u.segments_ok

end GatewayUrl

-- ── The pieces of the text ───────────────────────────────────────────────────

theorem pathText_concat (segs : List String) (seg : String) :
    pathText (segs ++ [seg]) = pathText segs ++ "/" ++ seg := by
  induction segs with
  | nil => simp [pathText]
  | cons x segs ih => simp only [List.cons_append, pathText, ih, String.append_assoc]

/-- The text of a URL is something, a slash and the last piece, which has no slash; the last piece
    is the last segment, or the authority where there is none. -/
theorem GatewayUrl.render_last (u : GatewayUrl) (s : Scheme) :
    ∃ p t, s.text ++ "://" ++ (u.authority ++ pathText u.path) = p ++ "/" ++ t ∧ t ≠ "" ∧
      '/' ∉ t.toList ∧
      (t = "ws" ↔ u.path.getLast? = some "ws" ∨ u.authority = "ws" ∧ u.path = []) := by
  rcases List.eq_nil_or_concat u.path with hpath | ⟨segs, seg, hpath⟩
  · refine ⟨s.text ++ ":/", u.authority, ?_, u.authority_nonempty, u.authority_no_slash, ?_⟩
    · have hslashes : s.text ++ "://" = s.text ++ ":/" ++ "/" := by
        rw [String.append_assoc]
        rfl
      rw [hpath, pathText, String.append_empty, hslashes]
    · simp [hpath]
  · rw [List.concat_eq_append] at hpath
    obtain ⟨hne, hslash⟩ := u.segments_ok seg (by simp [hpath])
    refine ⟨s.text ++ "://" ++ (u.authority ++ pathText segs), seg, ?_, hne, hslash, ?_⟩
    · simp only [hpath, pathText_concat, String.append_assoc]
    · simp [hpath]

/-- A URL does not end in a slash. -/
theorem GatewayUrl.render_getLast (u : GatewayUrl) : u.render.toList.getLast? ≠ some '/' := by
  obtain ⟨p, t, hrender, hne, hslash, -⟩ := u.render_last u.scheme
  have htext : t.toList ≠ [] := by simpa using hne
  rw [render, hrender, String.toList_append, List.getLast?_append_of_ne_nil _ htext]
  intro hlast
  exact hslash (List.mem_of_getLast? hlast)

-- ── The steps of `compute_ws_url` ────────────────────────────────────────────

/-- The scheme test of `compute_ws_url`. -/
def swapScheme (base : String) : String :=
  if startsWith base "https://" then replacenOnce base "https://" "wss://"
  else if startsWith base "http://" then replacenOnce base "http://" "ws://"
  else base

theorem computeWsUrl_eq (x : String) :
    computeWsUrl x =
      if endsWith (swapScheme (trimEndMatches x '/')) "/ws" then swapScheme (trimEndMatches x '/')
      else swapScheme (trimEndMatches x '/') ++ "/ws" := rfl

/-- The scheme is swapped in place: no scheme is mistaken for another one. -/
theorem swapScheme_render (s : Scheme) (rest : String) :
    swapScheme (s.text ++ "://" ++ rest) = s.socket.text ++ "://" ++ rest := by
  have hno : ∀ pat, ¬ pat.toList <+: (s.text ++ "://" ++ rest).toList →
      startsWith (s.text ++ "://" ++ rest) pat = false := fun pat => startsWith_eq_false
  rw [swapScheme]
  cases s with
  | http =>
      rw [hno "https://" (by simp [Scheme.text]), if_neg Bool.false_ne_true,
        show Scheme.http.text ++ "://" = "http://" from rfl, if_pos (startsWith_append _ _),
        replacenOnce_append (by decide)]
      rfl
  | https =>
      rw [show Scheme.https.text ++ "://" = "https://" from rfl, if_pos (startsWith_append _ _),
        replacenOnce_append (by decide)]
      rfl
  | ws | wss =>
      rw [hno "https://" (by simp [Scheme.text]), if_neg Bool.false_ne_true,
        hno "http://" (by simp [Scheme.text]), if_neg Bool.false_ne_true]
      rfl

/-- Trailing slashes do not matter, and the rest is decided by how the text ends. -/
theorem computeWsUrl_render (u : GatewayUrl) (n : ℕ) :
    computeWsUrl (u.render ++ String.ofList (List.replicate n '/')) =
      if u.path.getLast? = some "ws" ∨ u.authority = "ws" ∧ u.path = [] then
        u.scheme.socket.text ++ "://" ++ (u.authority ++ pathText u.path)
      else u.scheme.socket.text ++ "://" ++ (u.authority ++ pathText u.path) ++ "/ws" := by
  obtain ⟨p, t, hrender, -, hslash, hws⟩ := u.render_last u.scheme.socket
  have hends : endsWith (p ++ "/" ++ t) "/ws" = true ↔ t = "ws" :=
    endsWith_separator_iff (c := '/') (w := "ws") hslash (by decide) p
  rw [computeWsUrl_eq, trimEndMatches_replicate u.render_getLast, GatewayUrl.render,
    swapScheme_render, hrender]
  by_cases ht : t = "ws"
  · rw [if_pos (hends.mpr ht), if_pos (hws.mp ht)]
  · rw [if_neg (fun h => ht (hends.mp h)), if_neg (fun h => ht (hws.mpr h))]

theorem endpoint_render_of_ws {u : GatewayUrl} (h : u.path.getLast? = some "ws") :
    u.endpoint.render = u.scheme.socket.text ++ "://" ++ (u.authority ++ pathText u.path) := by
  show u.scheme.socket.text ++ "://" ++ (u.authority ++ pathText (GatewayUrl.wsPath u.path)) = _
  rw [GatewayUrl.wsPath, if_pos h]

theorem endpoint_render_of_ne {u : GatewayUrl} (h : u.path.getLast? ≠ some "ws") :
    u.endpoint.render
      = u.scheme.socket.text ++ "://" ++ (u.authority ++ pathText u.path) ++ "/ws" := by
  show u.scheme.socket.text ++ "://" ++ (u.authority ++ pathText (GatewayUrl.wsPath u.path)) = _
  rw [GatewayUrl.wsPath, if_neg h, pathText_concat]
  simp only [String.append_assoc]
  rfl

/-- An endpoint is its own endpoint. -/
theorem endpoint_endpoint (u : GatewayUrl) : u.endpoint.endpoint.render = u.endpoint.render := by
  rw [endpoint_render_of_ws (GatewayUrl.getLast?_wsPath u.path)]
  have hsocket : u.endpoint.scheme.socket = u.endpoint.scheme := by
    show u.scheme.socket.socket = u.scheme.socket
    cases u.scheme <;> rfl
  rw [hsocket, GatewayUrl.render]

/-- The endpoint of a URL, dialled as a gateway URL. -/
theorem computeWsUrl_endpoint (u : GatewayUrl) :
    computeWsUrl u.endpoint.render = u.endpoint.render := by
  have hlast := GatewayUrl.getLast?_wsPath u.path
  have h := computeWsUrl_render u.endpoint 0
  rw [if_pos (.inl hlast), ← endpoint_render_of_ws hlast, endpoint_endpoint] at h
  simpa using h

/-- **The only wrong endpoint.** For every gateway URL and every number of trailing slashes, the
    computed text is the URL's WebSocket endpoint, whose path ends in `ws`, and is computed from
    itself again; exactly the URL with the authority `ws` and no path is missed. -/
theorem computeWsUrl_eq_endpoint_iff (u : GatewayUrl) (n : ℕ) :
    (computeWsUrl (u.render ++ String.ofList (List.replicate n '/')) = u.endpoint.render ∧
      u.endpoint.path.getLast? = some "ws" ∧
      computeWsUrl (u.render ++ String.ofList (List.replicate n '/')) = computeWsUrl u.render ∧
      computeWsUrl (computeWsUrl (u.render ++ String.ofList (List.replicate n '/')))
        = computeWsUrl (u.render ++ String.ofList (List.replicate n '/'))) ↔
    ¬ (u.authority = "ws" ∧ u.path = []) := by
  have hzero := computeWsUrl_render u 0
  rw [List.replicate_zero, String.ofList_nil, String.append_empty] at hzero
  constructor
  · rintro ⟨heq, -⟩ ⟨hauth, hpath⟩
    have hne : u.path.getLast? ≠ some "ws" := by simp [hpath]
    rw [computeWsUrl_render, if_pos (.inr ⟨hauth, hpath⟩), endpoint_render_of_ne hne] at heq
    have hlen := congrArg String.length heq
    simp at hlen
  · intro hok
    have heq : computeWsUrl (u.render ++ String.ofList (List.replicate n '/'))
        = u.endpoint.render := by
      rw [computeWsUrl_render]
      by_cases hlast : u.path.getLast? = some "ws"
      · rw [if_pos (.inl hlast), endpoint_render_of_ws hlast]
      · rw [if_neg (by simp [hlast, hok]), endpoint_render_of_ne hlast]
    refine ⟨heq, GatewayUrl.getLast?_wsPath u.path, ?_, ?_⟩
    · rw [computeWsUrl_render, hzero]
    · rw [heq, computeWsUrl_endpoint]

/-- `http://ws`, the host that is called like the segment. -/
def hostNamedWs : GatewayUrl where
  scheme             := .http
  authority          := "ws"
  path               := []
  authority_nonempty := by decide
  authority_no_slash := by decide
  segments_ok        := by simp

/-- Nothing is appended to the URL of the host `ws`. -/
theorem hostNamedWs_not_endpoint :
    ¬ ∀ (u : GatewayUrl) (n : ℕ),
      computeWsUrl (u.render ++ String.ofList (List.replicate n '/')) = u.endpoint.render := by
  intro h
  have hws := h hostNamedWs 0
  revert hws
  decide

end HamletCloudGateway
