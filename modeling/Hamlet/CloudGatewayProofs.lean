import Hamlet.Lib.RustTextProofs

/-!
# The WebSocket link to a cloud gateway: messages, endpoint, connection

What the message loop needs of the cloud gateway client: the frames it exchanges
(`GatewayMessage`, with JSON values as decoded data), the endpoint a gateway URL is dialled at
(`computeWsUrl`), and what `connect_to_gateway` sets up.

A connection is identified by the sender of its shutdown channel (`ShutdownTx`): the background
task lives exactly as long as somebody holds that sender, because dropping it fires the
receiver.
-/

namespace HamletCloudGateway

open RustText

/-- A decoded JSON value (`serde_json::Value`); a number keeps its text. -/
inductive JsonValue where
  | null
  | bool (b : Bool)
  | number (text : String)
  | string (s : String)
  | array (items : List JsonValue)
  | object (fields : List (String × JsonValue))

/-- `Value::as_object` and `Map::get`; the keys of a decoded object are distinct. -/
def JsonValue.get? (key : String) : JsonValue → Option JsonValue
  | .object fields => fields.lookup key
  | _ => none

/-- `Value::as_str`. -/
def JsonValue.asStr? : JsonValue → Option String
  | .string s => some s
  | _ => none

/-- Frames exchanged with the cloud gateway. -/
inductive GatewayMessage where
  | register (serverUrl : String)
  | connect (target : String)
  | connectRequest (from_ : String)
  | beaconRegistration (serverUrl : String) (payload : JsonValue)
  | relay (from_ to_ : String) (payload : JsonValue)
  | ack (ok : Bool) (message : Option String)

/-- `compute_ws_url`: the endpoint a gateway URL is dialled at. -/
def computeWsUrl (gatewayUrl : String) : String :=
  let base := trimEndMatches gatewayUrl '/'
  let base :=
    if startsWith base "https://" then replacenOnce base "https://" "wss://"
    else if startsWith base "http://" then replacenOnce base "http://" "ws://"
    else base
  if endsWith base "/ws" then base else base ++ "/ws"

example :
    computeWsUrl "https://gateway.example.com:8443/" = "wss://gateway.example.com:8443/ws" := by
  decide

/-- The sender half of a connection's shutdown channel. -/
structure ShutdownTx where
  connection : ℕ
  deriving DecidableEq, Repr

/-- What `connect_to_gateway` was called with, where its task dials, and what was queued. -/
structure Connection where
  serverUrl  : String
  gatewayUrl : String
  wsUrl      : String
  queued     : List GatewayMessage

/-- `connect_to_gateway`: a fresh connection with an empty outbound queue. -/
def connectToGateway (serverUrl gatewayUrl : String) : Connection where
  serverUrl  := serverUrl
  gatewayUrl := gatewayUrl
  wsUrl      := computeWsUrl gatewayUrl
  queued     := []

/-- `CloudGatewayHandle::send` on a connection whose task is alive. -/
def Connection.send (c : Connection) (msg : GatewayMessage) : Connection :=
  { c with queued := c.queued ++ [msg] }

end HamletCloudGateway
