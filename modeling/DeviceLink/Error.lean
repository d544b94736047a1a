import DeviceLink.Coded
/-!
# Errors

Causes of failure at the three levels: the networking library, the client handles built on
it, and the agent. `message` is the one place of their wording.
-/

namespace DeviceLink

/-- Why the networking library refused a call at once. -/
inductive LibraryError
  | config (reason : String)
  | connection (reason : String)
  | tls (reason : String)
  | unsupported (what : String)
  | other (text : String)
  deriving DecidableEq, Repr

/-- The wording of a library error. -/
def LibraryError.message : LibraryError → String
  | config reason => s!"invalid config: {reason}"
  | connection reason => s!"connection error: {reason}"
  | tls reason => s!"TLS error: {reason}"
  | unsupported what => s!"{what} is not supported by this backend"
  | other text => text

/-- Why a client handle could not be built, or a code not be read. -/
inductive ClientError
  | missingAuth
  | badConfig (reason : String)
  | badConnection (reason : String)
  | connect (clientId endpoint lastError : String)
  | subscription (name : String)
  | tunnel (reason : String)
  | unknownCode (cause : UnknownCode)
  deriving DecidableEq, Repr

/-- The wording of a client error. -/
def ClientError.message : ClientError → String
  | missingAuth => "config is missing password auth or certificate/private key auth"
  | badConfig reason => s!"native config error: {reason}"
  | badConnection reason => s!"native connection error: {reason}"
  | connect clientId endpoint lastError =>
    s!"error during connect: client_id [{clientId}], endpoint [{endpoint}], " ++
      s!"last error [{lastError}]"
  | subscription name => s!"subscription to {name} failed"
  | tunnel reason => s!"tunnel error: {reason}"
  | unknownCode cause => cause.message

/-- Why the agent could not start. -/
inductive AgentError
  | credentials (reason : String)
  | client (cause : ClientError)
  | library (cause : LibraryError)
  deriving DecidableEq, Repr

/-- The wording of an agent error; a cause from below keeps its own. -/
def AgentError.message : AgentError → String
  | credentials reason => s!"credential error: {reason}"
  | client cause => cause.message
  | library cause => cause.message

end DeviceLink
