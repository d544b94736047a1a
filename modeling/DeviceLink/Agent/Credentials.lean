import DeviceLink.Agent.Settings
import DeviceLink.Mqtt.Client
/-!
# Credentials of a device

Certificate, private key and trust anchor, read from the files that the settings name. Empty
bytes mean that none is named.
-/

namespace DeviceLink.Agent

open Mqtt

/-- The bytes of the files. -/
structure Credentials where
  certificate : List UInt8 := []
  privateKey : List UInt8 := []
  authority : List UInt8 := []
  deriving DecidableEq, Repr

namespace Credentials

/-- The bytes of a file that may not be named; a file that is named must not be empty. -/
def readFile (files : Files) (path : Option String) (what : String) :
    Except AgentError (List UInt8) :=
  match path with
  | none => .ok []
  | some path =>
    match files path with
    | .error fault =>
      .error (.credentials s!"failed to read {what} '{path}': {fault.message}")
    | .ok [] => .error (.credentials s!"{what} '{path}' is empty")
    | .ok bytes => .ok bytes

/-- Reading the files in order. A certificate and its key go together. -/
def load (files : Files) (s : MqttSettings) : Except AgentError Credentials := do
  let certificate ← readFile files s.certPath "client cert"
  let privateKey ← readFile files s.keyPath "client key"
  let authority ← readFile files s.caPath "CA cert"
  if certificate.isEmpty ≠ privateKey.isEmpty then
    throw (.credentials "cert_path and key_path must be set together")
  pure { certificate, privateKey, authority }

/-- The client config, which borrows the bytes. -/
def clientConfig (c : Credentials) (s : MqttSettings) (clientId : String) : ClientConfig :=
  { endpoint := s.endpoint
    port := s.port
    clientId
    cleanSession := s.cleanSession
    keepAliveSeconds := s.keepAliveSeconds
    pingTimeoutMs := s.pingTimeoutMs
    username := s.username.getD ""
    password := s.password.getD ""
    certificate := Buffer.borrowed c.certificate
    privateKey := Buffer.borrowed c.privateKey
    authority := Buffer.borrowed c.authority
    insecureTcp := !s.useTls }

end Credentials

end DeviceLink.Agent
