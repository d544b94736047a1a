import DeviceLink.Mqtt.Client
/-!
# Sessions

The caller's side of an MQTT client: a status, and every callback as an event of its own that
outlives it.
-/

namespace DeviceLink.Agent

open Mqtt

/-- Where a connection stands. -/
inductive Status
  | connecting
  | connected
  | interrupted
  | closed
  deriving DecidableEq, Repr, Inhabited

/-- The name of a status. -/
def Status.name : Status → String
  | connecting => "Connecting"
  | connected => "Connected"
  | interrupted => "Interrupted"
  | closed => "Closed"

/-- What a callback told. -/
inductive Event
  | connected (sessionPresent : Bool)
  | connectFailed (code : Int) (returnCode : ReturnCode)
  | interrupted (code : Int)
  | resumed (returnCode : ReturnCode) (sessionPresent : Bool)
  | closed
  | message (topic : String) (payload : List UInt8) (qos : Qos) (retain : Bool)
  | subAck (id : Nat) (topic : String) (qos : Qos) (code : Int)
  | published (id : Nat) (code : Int)
  | unsubscribed (id : Nat) (code : Int)
  deriving DecidableEq, Repr

/-- Whether the connection is gone and will not be tried again. -/
def Event.endsSession : Event → Bool
  | connectFailed .. | closed => true
  | connected _ | interrupted _ | resumed .. | message .. | subAck .. | published ..
  | unsubscribed .. => false

/-- The event of a callback. A completion with an error, or that the broker did not accept,
is a failure to connect. -/
def Event.ofCallback : Callback → Event
  | .completed code returnCode sessionPresent =>
    if code = 0 ∧ returnCode = .accepted then connected sessionPresent
    else connectFailed code returnCode
  | .closed => closed
  | .interrupted code => interrupted code
  | .resumed returnCode sessionPresent => resumed returnCode sessionPresent
  | .message topic payload _ qos retain => message topic payload.bytes qos retain
  | .subAck id topic qos code => subAck id topic qos code
  | .published id code => published id code
  | .unsubscribed id code => unsubscribed id code

/-- The status after an event; a failure to connect and what is no lifecycle event keep it. -/
def Status.after (s : Status) : Event → Status
  | .connected _ | .resumed .. => connected
  | .interrupted _ => interrupted
  | .closed => closed
  | .connectFailed .. | .message .. | .subAck .. | .published .. | .unsubscribed .. => s

/-- A session: the status, and the events nobody has taken yet. -/
structure Session where
  status : Status := .connecting
  mailbox : List Event := []
  /-- Whether anyone takes the events; else they are dropped. -/
  isOpen : Bool := true
  deriving DecidableEq, Repr

/-- The session after a callback. -/
def Session.tell (s : Session) (c : Callback) : Session :=
  let event := Event.ofCallback c
  { s with
    status := s.status.after event
    mailbox := if s.isOpen then s.mailbox ++ [event] else s.mailbox }

/-- The session without a taker of its events. -/
def Session.abandon (s : Session) : Session := { s with mailbox := [], isOpen := false }

end DeviceLink.Agent
