import DeviceLink.Bench.State
/-!
# What the library tells

Events given by hand on the objects of the library, and the callbacks they lead to.
-/

namespace DeviceLink.Bench

open Mqtt Simulated

namespace State

/-! ## Connections -/

/-- The bench with a connection replaced. -/
def putConnection (s : State) (i : Nat) (c : Simulated.Connection Receiver) : State :=
  { s with library := s.library.putConnection i c }

/-- A lifecycle signal, and whether there is a handler for it. -/
def fireLifecycle (s : State) (c : Simulated.Connection Receiver) (signal : Signal) :
    State × Bool :=
  let deliveries := c.fire signal
  (s.tellAllMqtt deliveries, !deliveries.isEmpty)

/-- A message, and the number of its handlers. -/
def receive (s : State) (c : Simulated.Connection Receiver) (m : Message) : State × Nat :=
  let deliveries := c.receive m
  (s.tellAllMqtt deliveries, deliveries.length)

/-- The acknowledgement of an operation, and whether one was pending. -/
def ack (s : State) (i : Nat) (c : Simulated.Connection Receiver) (id : Nat) (code : Int) :
    State × Bool :=
  let (c, delivery) := c.ack id code
  ((s.putConnection i c).tellAllMqtt delivery.toList, delivery.isSome)

/-- The acknowledgement of every operation, and how many there were. -/
def ackAll (s : State) (i : Nat) (c : Simulated.Connection Receiver) (code : Int) :
    State × Nat :=
  let (c, deliveries) := c.ackAll code
  ((s.putConnection i c).tellAllMqtt deliveries, deliveries.length)

/-! ## Jobs clients -/

/-- The acknowledgement of every subscription, and how many there were. -/
def completeSubscriptions (s : State) (j : Nat) (c : JobsClient Receiver) (ioError : Int) :
    State × Nat :=
  let (c, signals) := c.completeSubscriptions ioError
  (({ s with library := s.library.putJobsClient j c } : State).tellAllJobs signals, signals.length)

/-- The completion of every request, and how many there were. -/
def completePublishes (s : State) (j : Nat) (c : JobsClient Receiver) (ioError : Int) :
    State × Nat :=
  let (c, signals) := c.completePublishes ioError
  (({ s with library := s.library.putJobsClient j c } : State).tellAllJobs signals, signals.length)

/-- An event, and the number of its handlers. -/
def fireJobs (s : State) (c : JobsClient Receiver) (e : Jobs.Event) (ioError : Int) :
    State × Nat :=
  let signals := c.fire e ioError
  (s.tellAllJobs signals, signals.length)

/-! ## Tunnels -/

/-- The acknowledgement of every subscription for tunnels, and how many there were. -/
def completeListeners (s : State) (i : Nat) (c : TunnelingClient Receiver) (code : Int) :
    State × Nat :=
  let (c, signals) := c.complete code
  (({ s with library := s.library.putTunnelingClient i c } : State).tellAllListener signals,
    signals.length)

/-- A report of an opened tunnel, and the number of its handlers. -/
def fireOpened (s : State) (c : TunnelingClient Receiver) (response : Option Tunnel.Opened)
    (ioError : Int) : State × Nat :=
  let signals := c.fire response ioError
  (s.tellAllListener signals, signals.length)

/-- An event of a tunnel, and whether there is a handler for it. -/
def fireTunnel (s : State) (t : Simulated.Tunnel Receiver) (e : Tunnel.Event) : State × Bool :=
  match t.fire e with
  | some (receiver, e) => (s.tellTunnel receiver e, true)
  | none => (s, false)

end State

end DeviceLink.Bench
