import DeviceLink.Error
import DeviceLink.Text.Quoted
/-!
# Connection configs

How a connection reaches its broker and proves who it is. A draft collects settings in any
order; `Draft.build` checks them and makes a config of them.
-/

namespace DeviceLink.Mqtt

/-- How a connection proves who it is. -/
inductive Auth
  /-- A client certificate and its private key, for mutual TLS. -/
  | certificate (certificate privateKey : List UInt8)
  | password (username password : String)
  deriving DecidableEq, Repr

/-- How an authentication is shown in a diagnostic: secrets are left out. -/
def Auth.describe : Auth → String
  | certificate _ _ => "Mtls"
  | password username _ => "Password \x7b username: " ++ Quoted.quote username ++ " \x7d"

/-- A checked config. -/
structure Config where
  endpoint : String
  /-- A port other than the usual one. -/
  port : Option Nat
  auth : Auth
  /-- The trust anchor; none leaves it to the platform. -/
  authority : Option (List UInt8)
  useTls : Bool
  deriving DecidableEq, Repr

/-- The port used where none is set. -/
def defaultPort : Nat := 8883

/-- The port a config connects to. -/
def Config.effectivePort (c : Config) : Nat := c.port.getD defaultPort

/-- Settings that are being collected. -/
structure Draft where
  endpoint : Option String := none
  port : Option Nat := none
  certificate : Option (List UInt8) := none
  privateKey : Option (List UInt8) := none
  username : Option String := none
  password : Option String := none
  authority : Option (List UInt8) := none
  useTls : Bool := true
  deriving DecidableEq, Repr

/-- What is wrong with a draft. -/
inductive ConfigFault
  | endpointRequired
  | certificateNeedsTls
  | noAuthentication
  deriving DecidableEq, Repr

/-- The wording of a fault. -/
def ConfigFault.message : ConfigFault → String
  | endpointRequired => "endpoint is required"
  | certificateNeedsTls => "certificate auth requires TLS"
  | noAuthentication => "no usable authentication configured"

namespace Draft

/-- An authentication from what is set: a certificate with its key if neither is empty, else
a password for a user that is not empty. -/
def auth (d : Draft) : Except ConfigFault Auth :=
  match d.certificate.filter (· ≠ []), d.privateKey.filter (· ≠ []) with
  | some certificate, some privateKey =>
    if d.useTls then .ok (.certificate certificate privateKey)
    else .error .certificateNeedsTls
  | _, _ =>
    match d.username.filter (· ≠ ""), d.password with
    | some username, some password => .ok (.password username password)
    | _, _ => .error .noAuthentication

/-- The config of a draft, or the first fault: its endpoint, then its authentication. -/
def build (d : Draft) : Except ConfigFault Config := do
  let some endpoint := d.endpoint.filter (· ≠ "") | throw .endpointRequired
  let auth ← d.auth
  pure {
    endpoint
    port := d.port.filter (· ≠ 0)
    auth
    authority := d.authority.filter (· ≠ [])
    useTls := d.useTls }

/-- One step of filling in a draft. -/
inductive Call
  | fresh
  | freshCertificate (certificate privateKey : List UInt8)
  | endpoint (value : String)
  | port (value : Nat)
  | username (value : String)
  | password (value : String)
  | authority (value : List UInt8)
  | withoutTls
  deriving DecidableEq, Repr

/-- A step applied: the first two start over, the others set one thing. -/
def apply (d : Draft) : Call → Draft
  | .fresh => {}
  | .freshCertificate certificate privateKey =>
    { certificate := some certificate, privateKey := some privateKey }
  | .endpoint value => { d with endpoint := some value }
  | .port value => { d with port := some value }
  | .username value => { d with username := some value }
  | .password value => { d with password := some value }
  | .authority value => { d with authority := some value }
  | .withoutTls => { d with useTls := false }

/-- The draft that steps leave, starting from nothing. -/
def ofCalls (calls : List Call) : Draft := calls.foldl apply {}

end Draft

/-- What `connect` is told about the session. -/
structure ConnectOptions where
  clientId : String
  cleanSession : Bool
  keepAliveSeconds : Nat
  pingTimeoutMs : Nat
  deriving DecidableEq, Repr

/-- A library error for a faulty draft. -/
def ConfigFault.toLibraryError (f : ConfigFault) : LibraryError := .config f.message

end DeviceLink.Mqtt
