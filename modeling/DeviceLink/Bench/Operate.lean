import DeviceLink.Agent.Handler
import DeviceLink.Bench.Build
/-!
# What users do with their handles

The operations of handles, each on the object that its handle holds.
-/

namespace DeviceLink.Bench

open Mqtt Simulated

namespace State

/-! ## Clients -/

/-- An operation of a client on its connection. -/
def onConnection {α : Type} (s : State) (i : Nat) (absent : α)
    (operation : Endpoint Receiver → Reply (Endpoint Receiver) α) : State × α :=
  match s.library.endpoint? i with
  | none => (s, absent)
  | some endpoint =>
    let reply := operation endpoint
    ((s.withLibrary (s.library.putConnection i reply.connection.connection)).noteAll reply.notes,
      reply.answer)

/-- Who the user of a client is. -/
def clientReceiver (s : State) (name : String) : Receiver :=
  if (s.sessions.lookup name).isSome then .session name else .client name

/-- Subscribing to one topic. -/
def subscribe (s : State) (name : String) (i : Nat) (topic : String) (qos : Qos) :
    State × Option Nat :=
  s.onConnection i none fun e => Client.subscribe e (s.clientReceiver name) topic qos

/-- Subscribing to several topics. -/
def subscribeMany (s : State) (name : String) (i : Nat) (topics : List String) (qos : Qos) :
    State × Option Nat :=
  s.onConnection i none fun e => Client.subscribeMany e (s.clientReceiver name) topics qos

/-- Ending a subscription. -/
def unsubscribe (s : State) (name : String) (i : Nat) (topic : String) : State × Option Nat :=
  s.onConnection i none fun e => Client.unsubscribe e (s.clientReceiver name) topic

/-- Publishing a payload. -/
def publish (s : State) (name : String) (i : Nat) (topic : String) (qos : Qos) (retain : Bool)
    (payload : List UInt8) : State × Option Nat :=
  s.onConnection i none fun e =>
    Client.publish e (s.clientReceiver name) topic qos retain (Buffer.borrowed payload)

/-- Publishing a payload several times; the last answer counts. -/
def publishTimes (s : State) (name : String) (i : Nat) (topic : String) (qos : Qos)
    (retain : Bool) (payload : List UInt8) : (times : Nat) → State × Option Nat
  | 0 => (s, none)
  | 1 => s.publish name i topic qos retain payload
  | times + 1 => (s.publish name i topic qos retain payload).1.publishTimes name i topic qos
      retain payload times

/-- Starting to close a connection. -/
def disconnect (s : State) (i : Nat) : State × Bool := s.onConnection i false Client.disconnect

/-! ## Jobs -/

/-- A request of a jobs client, and whether it was accepted. -/
def request (s : State) (j : Nat) (r : Jobs.Request) (qos : Qos) (token : Token)
    (receiver : Receiver) : State × Bool :=
  match s.library.jobsClients.get? j with
  | none => (s, false)
  | some client =>
    let (client, accepted) := client.publish s.library.faults r qos token receiver
    (s.withLibrary (s.library.putJobsClient j client), accepted)

/-- A request of a handle; one that is refused is noted. -/
def sendRequest (s : State) (j : Nat) (r : Jobs.Request) (qos : Qos) (token : Token)
    (receiver : Receiver) (refused : Log.Line) : State × Bool :=
  let (s, accepted) := s.request j r qos token receiver
  (if accepted then s else s.note refused, accepted)

/-- A subscription of the bench's own, and whether it was accepted. -/
def subscribeRawJobs (s : State) (j : Nat) (scope : Jobs.Scope) (topic : Jobs.Topic) :
    State × Bool :=
  match s.library.jobsClients.get? j with
  | none => (s, false)
  | some client =>
    let (client, accepted) := client.subscribe s.library.faults scope topic .raw
    (s.withLibrary (s.library.putJobsClient j client), accepted)

/-! ## Tunnels -/

/-- A call on a tunnel, and its status. -/
def onTunnel (s : State) (t : Nat)
    (call : Simulated.Tunnel Receiver → Simulated.Tunnel Receiver × Int) : State × Int :=
  match s.library.tunnels.get? t with
  | none => (s, failedStatus)
  | some tunnel =>
    let (tunnel, status) := call tunnel
    (s.withLibrary (s.library.putTunnel t tunnel), status)

/-- Starting a tunnel; through a handle a failure is noted. -/
def startTunnel (s : State) (t : Nat) (throughHandle : Bool) : State × Int :=
  let (s, status) := s.onTunnel t (·.start s.library.faults)
  (if throughHandle ∧ status ≠ 0 then s.note (Tunnel.startFailed status) else s, status)

/-- Stopping a tunnel; through a handle a failure is noted. -/
def stopTunnel (s : State) (t : Nat) (throughHandle : Bool) : State × Int :=
  let (s, status) := s.onTunnel t (·.stop)
  (if throughHandle ∧ status ≠ 0 then s.note (Tunnel.stopFailed status) else s, status)

/-- Sending a message through a tunnel. -/
def sendThroughTunnel (s : State) (t : Nat) (m : Tunnel.Outbound) : State × Int :=
  s.onTunnel t (·.send s.library.faults m)

/-! ## Sessions -/

/-- The agent handling events of a session with its client. -/
def handleEvents (s : State) (name : String) (i : Nat) (topics : List String) (qos : Qos)
    (events : List Agent.Event) : State × List (List Agent.Trace) :=
  match s.library.endpoint? i with
  | none => (s, [])
  | some endpoint =>
    let (endpoint, traces, notes) :=
      Agent.handleAll endpoint (s.clientReceiver name) topics qos events
    ((s.withLibrary (s.library.putConnection i endpoint.connection)).noteAll notes, traces)

end State

end DeviceLink.Bench
