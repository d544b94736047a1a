import DeviceLink.Mqtt.Connection
import DeviceLink.Mqtt.Topic
import DeviceLink.Simulated.Fault
/-!
# The simulated connection

A connection without a broker. It takes down every call; its events are given by hand.
Operations wait until they are acknowledged by id. Subscriptions stand in the order they
were made, a filter as often as it was subscribed.
-/

namespace DeviceLink.Simulated

open Mqtt

/-- An operation that waits for its acknowledgement. -/
structure Awaiting (ρ : Type) where
  completion : Completion
  qos : Qos
  onAck : ρ
  deriving DecidableEq, Repr

/-- The acknowledgement of an operation. A subscription is granted what it asked for, unless
there is an error. -/
def Awaiting.delivery {ρ : Type} (a : Awaiting ρ) (id : Nat) (code : Int) : Delivery ρ :=
  let granted := if code = 0 then a.qos else .failure
  ⟨a.onAck, a.completion.signal id granted code⟩

/-- A publish call taken down. -/
structure Published where
  id : Nat
  topic : String
  qos : Qos
  retain : Bool
  payload : List UInt8
  deriving DecidableEq, Repr

/-- The state of a simulated connection. -/
structure Connection (ρ : Type) where
  config : Config
  lifecycle : Lifecycle ρ := {}
  /-- What the last `connect` was told. -/
  options : Option ConnectOptions := none
  subscriptions : List (String × ρ) := []
  /-- Operations by id, the highest first. -/
  pending : List (Nat × Awaiting ρ) := []
  /-- Publish calls, the latest first. -/
  published : List Published := []
  lastId : Nat := 0
  shutDown : Bool := false
  lastError : Int := 0
  deriving DecidableEq, Repr

/-- An entry put under its id, in the place of an earlier one. -/
def putById {α : Type} (id : Nat) (entry : α) : List (Nat × α) → List (Nat × α)
  | [] => [(id, entry)]
  | (k, e) :: rest =>
    if k < id then (id, entry) :: (k, e) :: rest
    else if k = id then (id, entry) :: rest
    else (k, e) :: putById id entry rest

namespace Connection

variable {ρ : Type}

/-! ## Calls -/

/-- Whether operations are refused. -/
def rejects (c : Connection ρ) (faults : Faults) : Bool :=
  c.shutDown || faults.isSet .operationsRejected

/-- The connection with the reason of a refusal. -/
def failed (c : Connection ρ) (e : ErrorCode) : Connection ρ := { c with lastError := e.code }

/-- An operation under the next id. -/
def await (c : Connection ρ) (a : Awaiting ρ) : Connection ρ × Option Nat :=
  let id := nextId c.lastId
  ({ c with lastId := id, pending := putById id a c.pending }, some id)

/-- The receivers of the lifecycle signals. -/
def setHandlers (c : Connection ρ) (lifecycle : Lifecycle ρ) : Connection ρ :=
  { c with lifecycle }

/-- Starting to connect. -/
def connect (c : Connection ρ) (faults : Faults) (options : ConnectOptions) :
    Connection ρ × Bool :=
  if faults.isSet .connect then (c.failed .connectOptionsValidation, false)
  else ({ c with options := some options }, true)

/-- Subscribing to one topic. -/
def subscribe (c : Connection ρ) (faults : Faults) (topic : String) (qos : Qos)
    (onMessage onAck : ρ) : Connection ρ × Option Nat :=
  if c.rejects faults then (c.failed .notConnected, none)
  else
    ({ c with subscriptions := c.subscriptions ++ [(topic, onMessage)] } : Connection ρ).await
      ⟨.subscribe topic, qos, onAck⟩

/-- Subscribing to several topics. No topics are refused without a reason. -/
def subscribeMany (c : Connection ρ) (faults : Faults) (topics : List (String × ρ)) (qos : Qos)
    (onAck : ρ) : Connection ρ × Option Nat :=
  if topics.isEmpty then (c, none)
  else if c.rejects faults then (c.failed .notConnected, none)
  else
    ({ c with subscriptions := c.subscriptions ++ topics } : Connection ρ).await
      ⟨.subscribeMany (topics.map Prod.fst), qos, onAck⟩

/-- Ending every subscription to a filter. -/
def unsubscribe (c : Connection ρ) (faults : Faults) (topic : String) (onAck : ρ) :
    Connection ρ × Option Nat :=
  if c.rejects faults then (c.failed .notConnected, none)
  else
    ({ c with subscriptions := c.subscriptions.filter fun entry => entry.1 ≠ topic } :
      Connection ρ).await ⟨.unsubscribe, .atLeastOnce, onAck⟩

/-- Publishing a payload. -/
def publish (c : Connection ρ) (faults : Faults) (topic : String) (qos : Qos) (retain : Bool)
    (payload : List UInt8) (onAck : ρ) : Connection ρ × Option Nat :=
  if c.rejects faults then (c.failed .notConnected, none)
  else
    ({ c with published := ⟨nextId c.lastId, topic, qos, retain, payload⟩ :: c.published } :
      Connection ρ).await ⟨.publish, qos, onAck⟩

/-- Shutting the connection down; only the first call does. -/
def disconnect (c : Connection ρ) : Connection ρ × Bool :=
  ({ c with shutDown := true }, !c.shutDown)

/-! ## Events given by hand -/

/-- A lifecycle signal for the receiver of its slot. -/
def fire (c : Connection ρ) : Signal → List (Delivery ρ)
  | .completed code returnCode sessionPresent =>
    deliver c.lifecycle.completed (.completed code returnCode sessionPresent)
  | .closed => deliver c.lifecycle.closed .closed
  | .interrupted code => deliver c.lifecycle.interrupted (.interrupted code)
  | .resumed returnCode sessionPresent =>
    deliver c.lifecycle.resumed (.resumed returnCode sessionPresent)
  | _ => []

/-- A message for every subscription that matches its topic, in order. -/
def receive (c : Connection ρ) (m : Message) : List (Delivery ρ) :=
  (c.subscriptions.filter fun entry => Topic.matchesFilter entry.1 m.topic).map
    fun entry => ⟨entry.2, .message m⟩

/-- The acknowledgement of one operation, if it is pending. -/
def ack (c : Connection ρ) (id : Nat) (code : Int) : Connection ρ × Option (Delivery ρ) :=
  match c.pending.lookup id with
  | none => (c, none)
  | some a =>
    ({ c with pending := c.pending.filter fun entry => entry.1 ≠ id },
      some (a.delivery id code))

/-- The ids of pending operations, the lowest first. -/
def pendingIds (c : Connection ρ) : List Nat := (c.pending.map (·.1)).reverse

/-- The acknowledgement of every pending operation, the lowest id first. -/
def ackAll (c : Connection ρ) (code : Int) : Connection ρ × List (Delivery ρ) :=
  ({ c with pending := [] }, c.pending.reverse.map fun (id, a) => a.delivery id code)

/-- The filters subscribed to, in order. -/
def filters (c : Connection ρ) : List String := c.subscriptions.map (·.1)

end Connection

/-- A simulated connection under the faults in force. -/
structure Endpoint (ρ : Type) where
  connection : Connection ρ
  faults : Faults

namespace Endpoint

variable {ρ α : Type}

/-- The endpoint after a call on its connection. -/
def lift (e : Endpoint ρ) (result : Connection ρ × α) : Endpoint ρ × α :=
  ({ e with connection := result.1 }, result.2)

end Endpoint

instance : Backend Endpoint where
  setHandlers e lifecycle := { e with connection := e.connection.setHandlers lifecycle }
  connect e options := e.lift (e.connection.connect e.faults options)
  subscribe e topic qos onMessage onAck :=
    e.lift (e.connection.subscribe e.faults topic qos onMessage onAck)
  subscribeMany e topics qos onAck :=
    e.lift (e.connection.subscribeMany e.faults topics qos onAck)
  unsubscribe e topic onAck := e.lift (e.connection.unsubscribe e.faults topic onAck)
  publish e topic qos retain payload onAck :=
    e.lift (e.connection.publish e.faults topic qos retain payload onAck)
  disconnect e := e.lift e.connection.disconnect
  lastError e := e.connection.lastError

end DeviceLink.Simulated
