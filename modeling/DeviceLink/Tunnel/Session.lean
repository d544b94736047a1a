import DeviceLink.Buffer.Basic
import DeviceLink.Log
import DeviceLink.Text.Quoted
/-!
# Tunnel sessions

The nine events of a tunnel, the draft a tunnel is built from, and the callbacks that its
events lead to.
-/

namespace DeviceLink.Tunnel

/-- Which end of the tunnel this side serves. -/
inductive Mode
  | destination
  | source
  deriving DecidableEq, Repr, Inhabited

/-- The name of a mode. -/
def Mode.name : Mode → String
  | destination => "Destination"
  | source => "Source"

/-- The kinds of tunnel events. -/
inductive Slot
  | connectionSuccess
  | connectionFailure
  | connectionShutdown
  | connectionReset
  | sessionReset
  | sendMessageComplete
  | messageReceived
  | streamStarted
  | streamStopped
  deriving DecidableEq, Repr, Inhabited

namespace Slot

/-- Every kind of event. -/
def all : List Slot :=
  [connectionSuccess, connectionFailure, connectionShutdown, connectionReset, sessionReset,
    sendMessageComplete, messageReceived, streamStarted, streamStopped]

/-- The name of a kind of event. -/
def name : Slot → String
  | connectionSuccess => "connection_success"
  | connectionFailure => "connection_failure"
  | connectionShutdown => "connection_shutdown"
  | connectionReset => "connection_reset"
  | sessionReset => "session_reset"
  | sendMessageComplete => "send_message_complete"
  | messageReceived => "message_received"
  | streamStarted => "stream_started"
  | streamStopped => "stream_stopped"

/-- The kind of event with a name. -/
def ofName? (text : String) : Option Slot := all.find? fun s => s.name = text

end Slot

/-- An event of a tunnel. Service ids and payloads may be absent. -/
inductive Event
  | connectionSuccess (id1 id2 id3 : Option (List UInt8))
  | connectionFailure (code : Int)
  | connectionShutdown
  | connectionReset (code : Int) (connectionId : Nat) (serviceId : Option (List UInt8))
  | sessionReset
  | sendMessageComplete (code : Int) (messageType : List UInt8)
  | messageReceived (connectionId : Nat) (payload serviceId : Option (List UInt8))
  | streamStarted (code : Int) (connectionId : Nat) (serviceId : Option (List UInt8))
  | streamStopped (serviceId : Option (List UInt8))
  deriving DecidableEq, Repr

/-- The kind of an event. -/
def Event.slot : Event → Slot
  | connectionSuccess .. => .connectionSuccess
  | connectionFailure _ => .connectionFailure
  | connectionShutdown => .connectionShutdown
  | connectionReset .. => .connectionReset
  | sessionReset => .sessionReset
  | sendMessageComplete .. => .sendMessageComplete
  | messageReceived .. => .messageReceived
  | streamStarted .. => .streamStarted
  | streamStopped _ => .streamStopped

/-- A call to the user of a tunnel. What is absent comes as an empty buffer. -/
inductive Callback
  | connectionSuccess (id1 id2 id3 : Buffer)
  | connectionFailure (code : Int)
  | connectionShutdown
  | connectionReset (code : Int) (connectionId : Nat) (serviceId : Buffer)
  | sessionReset
  | sendMessageComplete (code : Int) (messageType : Buffer)
  | messageReceived (connectionId : Nat) (payload serviceId : Buffer)
  | streamStarted (code : Int) (connectionId : Nat) (serviceId : Buffer)
  | streamStopped (serviceId : Buffer)
  deriving DecidableEq, Repr

/-- The name of a callback. -/
def Callback.name : Callback → String
  | connectionSuccess .. => "on_connection_success"
  | connectionFailure _ => "on_connection_failure"
  | connectionShutdown => "on_connection_shutdown"
  | connectionReset .. => "on_connection_reset"
  | sessionReset => "on_session_reset"
  | sendMessageComplete .. => "on_send_message_complete"
  | messageReceived .. => "on_message_received"
  | streamStarted .. => "on_stream_started"
  | streamStopped _ => "on_stream_stopped"

/-- Bytes lent to the caller, the empty buffer for none. -/
def lend : Option (List UInt8) → Buffer
  | some bytes => Buffer.borrowed bytes
  | none => Buffer.empty

/-- The callback an event leads to. -/
def Event.callback : Event → Callback
  | connectionSuccess id1 id2 id3 => .connectionSuccess (lend id1) (lend id2) (lend id3)
  | connectionFailure code => .connectionFailure code
  | connectionShutdown => .connectionShutdown
  | connectionReset code connectionId serviceId =>
    .connectionReset code connectionId (lend serviceId)
  | sessionReset => .sessionReset
  | sendMessageComplete code messageType =>
    .sendMessageComplete code (Buffer.borrowed messageType)
  | messageReceived connectionId payload serviceId =>
    .messageReceived connectionId (lend payload) (lend serviceId)
  | streamStarted code connectionId serviceId =>
    .streamStarted code connectionId (lend serviceId)
  | streamStopped serviceId => .streamStopped (lend serviceId)

/-- What a tunnel is built from, with a receiver in each slot that has a handler. -/
structure Draft (ρ : Type) where
  endpoint : String
  accessToken : String
  mode : Mode
  clientToken : Option String := none
  slots : List (Slot × ρ) := []
  deriving DecidableEq, Repr

namespace Draft

variable {ρ : Type}

/-- The draft with a receiver in a slot, in the place of an earlier one. -/
def register (d : Draft ρ) (slot : Slot) (receiver : ρ) : Draft ρ :=
  { d with slots := (slot, receiver) :: d.slots.filter fun entry => entry.1 ≠ slot }

/-- The draft with one receiver in all the slots given. -/
def registerAll (d : Draft ρ) (slots : List Slot) (receiver : ρ) : Draft ρ :=
  slots.foldl (fun d slot => d.register slot receiver) d

/-- How a draft is shown in a diagnostic: the access token is left out. -/
def describe (d : Draft ρ) : String :=
  "SecureTunnelBuilder \x7b endpoint: " ++ Quoted.quote d.endpoint ++ ", mode: " ++
    d.mode.name ++ ", client_token: " ++ Quoted.quoteOption d.clientToken ++ ", handlers: " ++
    toString d.slots.length ++ ", .. \x7d"

end Draft

/-- A message to send through a tunnel. -/
structure Outbound where
  connectionId : Nat
  payload : List UInt8
  deriving DecidableEq, Repr, Inhabited

/-- What is noted when a tunnel is about to be built. -/
def startNote (endpoint : String) (mode : Mode) : Log.Line :=
  ⟨.debug, s!"start building internal tunnel to [{endpoint}] in {mode.name} mode"⟩

/-- The warning about a start that failed. -/
def startFailed (status : Int) : Log.Line := ⟨.warn, s!"tunnel start failed with [{status}]"⟩

/-- The warning about a stop that failed. -/
def stopFailed (status : Int) : Log.Line := ⟨.warn, s!"tunnel stop failed with [{status}]"⟩

end DeviceLink.Tunnel
