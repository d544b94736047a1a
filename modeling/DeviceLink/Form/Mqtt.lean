import DeviceLink.Form.Basic
import DeviceLink.Mqtt.Client
/-!
# Written forms of connections

The JSON forms of configs, of the steps of filling in a draft, and of what a connection is
told when it is opened.
-/

namespace DeviceLink

open Json (Value)
open Json.Value

namespace Json.Value

/-- The number of the quality of service asked for, one if there is none. -/
def qosAt (v : Value) : Int := (v.intAt? "qos").getD 1

end Json.Value

namespace Mqtt

/-- A step of filling in a draft. -/
def Draft.Call.ofJson (v : Value) : Draft.Call :=
  match v.textAt "call" with
  | "endpoint" => .endpoint (v.textAt "value")
  | "username" => .username (v.textAt "value")
  | "password" => .password (v.textAt "value")
  | "port" => .port (v.natAt "value")
  | "ca" => .authority (v.bytesAt "value")
  | "without_tls" => .withoutTls
  | "mtls" => .freshCertificate (v.bytesAt "certificate") (v.bytesAt "private_key")
  | _ => .fresh

/-- The steps of filling in a draft that a field gives. -/
def Draft.callsOfJson (v : Value) (key : String) : List Draft.Call :=
  (v.listAt key).map Draft.Call.ofJson

/-- The form of an authentication. -/
def Auth.toJson : Auth → Value
  | .certificate chain key => ofFields [("mtls", .array [ofBytes chain, ofBytes key])]
  | .password user secret => ofFields [("password", ofTexts [user, secret])]

/-- The form of a config. -/
def Config.toJson (c : Config) : Value :=
  ofFields [
    ("endpoint", .string c.endpoint),
    ("port_override", ofOption (fun n => .int (Int.ofNat n)) c.port),
    ("port", .int c.effectivePort),
    ("auth", c.auth.toJson),
    ("auth_debug", .string c.auth.describe),
    ("ca", ofOption ofBytes c.authority),
    ("use_tls", .bool c.useTls)]

/-- What a connection is told when it is opened. -/
def ConnectOptions.ofJson (v : Value) : ConnectOptions :=
  { clientId := v.textAt "client_id"
    cleanSession := v.boolAt "clean_session"
    keepAliveSeconds := v.natAt "keep_alive_secs"
    pingTimeoutMs := v.natAt "ping_timeout_ms" }

/-- The form of what a connection is told when it is opened. -/
def ConnectOptions.toJson (o : ConnectOptions) : Value :=
  ofFields [
    ("client_id", .string o.clientId),
    ("clean_session", .bool o.cleanSession),
    ("keep_alive_secs", .int o.keepAliveSeconds),
    ("ping_timeout_ms", .int o.pingTimeoutMs)]

/-- The config of a client; a script may ask for the sample. -/
def ClientConfig.ofJson (v : Value) : ClientConfig :=
  if v.boolAt "preset" then ClientConfig.sample
  else
    { endpoint := v.textAt "endpoint"
      port := v.natAt "port"
      clientId := v.textAt "client_id"
      cleanSession := v.boolAt "clean_session"
      keepAliveSeconds := v.natAt "keep_alive_s"
      pingTimeoutMs := v.natAt "ping_timeout_ms"
      username := v.textAt "username"
      password := v.textAt "password"
      certificate := Buffer.borrowed (v.bytesAt "certificate")
      privateKey := Buffer.borrowed (v.bytesAt "private_key")
      authority := Buffer.borrowed (v.bytesAt "certificate_authority")
      insecureTcp := v.boolAt "insecure_tcp" }

/-- The form of the config of a client, with who owns its buffers. -/
def ClientConfig.toJson (c : ClientConfig) : Value :=
  ofFields [
    ("endpoint", .string c.endpoint),
    ("port", .int c.port),
    ("client_id", .string c.clientId),
    ("clean_session", .bool c.cleanSession),
    ("keep_alive_s", .int c.keepAliveSeconds),
    ("ping_timeout_ms", .int c.pingTimeoutMs),
    ("username", .string c.username),
    ("password", .string c.password),
    ("certificate", ofBytes c.certificate.bytes),
    ("private_key", ofBytes c.privateKey.bytes),
    ("certificate_authority", ofBytes c.authority.bytes),
    ("insecure_tcp", .bool c.insecureTcp),
    ("owned", .array ([c.certificate, c.privateKey, c.authority].map fun b => .bool b.owned))]

/-- The receiver in the lifecycle slots that are named. -/
def Lifecycle.ofJson {ρ : Type} (v : Value) (receiver : ρ) : Lifecycle ρ :=
  let names := v.textsAt "handlers"
  let slot (name : String) : Option ρ := if name ∈ names then some receiver else none
  { completed := slot "completed"
    closed := slot "closed"
    interrupted := slot "interrupted"
    resumed := slot "resumed" }

/-- The form of a signal of the lifecycle. -/
def Signal.lifecycleJson : Signal → Value
  | completed code returnCode sessionPresent =>
    .array [.string "completed", .int code, ofCode returnCode, .bool sessionPresent]
  | closed => .array [.string "closed"]
  | interrupted code => .array [.string "interrupted", .int code]
  | resumed returnCode sessionPresent =>
    .array [.string "resumed", ofCode returnCode, .bool sessionPresent]
  | message _ | subscribed .. | subscribedMany .. | unsubscribed .. | published .. => .null

end Mqtt

end DeviceLink
