import DeviceLink.Mqtt.Connection
import DeviceLink.Mqtt.Topic
/-!
# Packets of a link

What a connection asks its event loop to send, what the loop tells of it, what the broker
sends back, and how the loop fails. Packet ids are given by the loop and are not the ids of
requests.
-/

namespace DeviceLink.Link

open Mqtt

/-- What a connection hands to its event loop. -/
inductive Command
  | subscribe (filters : List (String × Qos))
  | unsubscribe (topic : String)
  | publish (topic : String) (qos : Qos) (retain : Bool) (payload : List UInt8)
  | disconnect
  deriving DecidableEq, Repr

/-- Whether a command can be sent at all. A topic to publish to holds no wildcard; filters
are not looked at. -/
def Command.isSendable : Command → Bool
  | publish topic .. => !Topic.hasWildcard topic
  | subscribe _ | unsubscribe _ | disconnect => true

/-- A packet from the broker. The codes of a `subAck` are one per filter. -/
inductive Packet
  | connAck (code : ReturnCode) (sessionPresent : Bool)
  | publish (m : Message)
  | subAck (pkid : Nat) (codes : List Qos)
  | unsubAck (pkid : Nat)
  | pubAck (pkid : Nat)
  | pubRec (pkid : Nat)
  | pubRel (pkid : Nat)
  | pubComp (pkid : Nat)
  | pingReq
  | pingResp
  | disconnect
  deriving DecidableEq, Repr

/-- A packet that the event loop tells it has sent. -/
inductive Outgoing
  | publish (pkid : Nat)
  | subscribe (pkid : Nat)
  | unsubscribe (pkid : Nat)
  | pubAck (pkid : Nat)
  | pubRec (pkid : Nat)
  | pubRel (pkid : Nat)
  | pubComp (pkid : Nat)
  | pingReq
  | pingResp
  | disconnect
  | awaitAck (pkid : Nat)
  deriving DecidableEq, Repr

/-- How the event loop fails. -/
inductive Failure
  | refused (code : ReturnCode)
  | io
  | requestsDone
  | networkTimeout
  | flushTimeout
  | notConnAck
  | protocol
  deriving DecidableEq, Repr

/-- The error code of a failure. -/
def Failure.code : Failure → ErrorCode
  | refused _ => .connackConnectionRefused
  | io => .unexpectedHangup
  | requestsDone => .connectionShutdown
  | networkTimeout | flushTimeout | notConnAck | protocol => .protocolError

/-- The broker's answer in a failure; only a refusal has one of its own. -/
def Failure.returnCode : Failure → ReturnCode
  | refused code => code
  | io | requestsDone | networkTimeout | flushTimeout | notConnAck | protocol => .accepted

/-- What one poll of the event loop gives. -/
inductive Poll
  | incoming (packet : Packet)
  | outgoing (packet : Outgoing)
  | failed (failure : Failure)
  deriving DecidableEq, Repr

/-- The lower of two qualities of service, where `failure` stands above the others. -/
def lower (p q : Qos) : Qos := if q.code < p.code then q else p

/-- The quality granted to a whole subscription: the least of the codes, or `failure` if one
of them is or there are none. -/
def granted (codes : List Qos) : Qos :=
  match codes with
  | [] => .failure
  | code :: rest => if .failure ∈ codes then .failure else rest.foldl lower code

end DeviceLink.Link
