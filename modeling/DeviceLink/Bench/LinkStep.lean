import DeviceLink.Simulated.Broker
/-!
# Steps on a link

One link, and a scripted broker or none. Its event loop runs only where a step says so;
otherwise its events are given by hand.
-/

namespace DeviceLink.Bench

open Mqtt Simulated

/-- A step on a link. -/
inductive LinkStep
  /-- A new link in the place of the old one; unchecked, its config need not do. -/
  | make (calls : List Draft.Call) (unchecked : Bool)
  | jobsClient
  | tunnelingClient
  | secureTunnel
  | setHandlers (lifecycle : Lifecycle String)
  | connect (options : ConnectOptions)
  /-- The tag names the receiver of the messages. -/
  | subscribe (topic : String) (qos : Int) (tag : String)
  | subscribeMany (topics : List String) (qos : Int)
  | unsubscribe (topic : String)
  | publish (topic : String) (qos : Int) (retain : Bool) (payload : List UInt8) (times : Nat)
  | disconnect
  | outgoing (packet : Link.Outgoing)
  | incoming (packet : Link.Packet)
  | interrupted (code : Int)
  | abandon (code : Int)
  | closed
  /-- One poll of the event loop where the network is refused; a loop at rest is not polled. -/
  | pollRefused
  /-- Polls of the event loop until as many signals were delivered. -/
  | wait (count : Nat)
  deriving Repr

/-- What a step on a link answers. -/
inductive LinkAnswer
  | nothing
  | yes (b : Bool)
  /-- The id of a request, zero for none. -/
  | id (n : Nat)
  | noConnection
  | noTask
  | unknownCode (e : UnknownCode)
  | libraryError (e : LibraryError)
  /-- Whether the signals were delivered, and whether the event loop still runs. -/
  | waited (arrived running : Bool)
  deriving DecidableEq, Repr

/-- A link, once it is made, and its broker. -/
structure LinkState where
  connection : Option (Link.Connection String) := none
  broker : Option Broker := none

namespace LinkState

/-- The most polls that a wait takes. -/
def patience : Nat := 100000

/-- Signals delivered to tags. -/
abbrev Deliveries := List (Delivery String)

/-- The answer of an operation: the id of a request, zero for none. -/
def answerId (s : LinkState) (result : Link.Connection String × Option Nat) :
    LinkState × LinkAnswer × Deliveries :=
  ({ s with connection := some result.1 }, .id (result.2.getD 0), [])

/-- The answer of a call that started something or did not. -/
def answerYes (s : LinkState) (result : Link.Connection String × Bool) :
    LinkState × LinkAnswer × Deliveries :=
  ({ s with connection := some result.1 }, .yes result.2, [])

/-- An event, which answers nothing. -/
def answerEvent (s : LinkState) (result : Link.Connection String × Deliveries) :
    LinkState × LinkAnswer × Deliveries :=
  ({ s with connection := some result.1 }, .nothing, result.2)

/-- A code that has to be known. -/
def withCode {α : Type} [Coded α] (s : LinkState) (n : Int)
    (next : α → LinkState × LinkAnswer × Deliveries) : LinkState × LinkAnswer × Deliveries :=
  match (Coded.decode n : Except UnknownCode α) with
  | .ok a => next a
  | .error e => (s, .unknownCode e, [])

/-- Publishing several times; the last answer counts. -/
def publishTimes (c : Link.Connection String) (topic : String) (qos : Qos) (retain : Bool)
    (payload : List UInt8) : (times : Nat) → Link.Connection String × Option Nat
  | 0 => (c, none)
  | 1 => c.publish topic qos retain payload ""
  | times + 1 => publishTimes (c.publish topic qos retain payload "").1 topic qos retain payload times

/-- A new link. -/
def make (s : LinkState) (calls : List Draft.Call) (unchecked : Bool) : LinkState × LinkAnswer :=
  match (Draft.ofCalls calls).build with
  | .error fault => (s, .libraryError fault.toLibraryError)
  | .ok config =>
    if unchecked then ({ s with connection := some { config } }, .yes true)
    else
      match Link.Connection.ofConfig config with
      | .error e => (s, .libraryError e)
      | .ok c => ({ s with connection := some c }, .yes true)

/-- A step on the link there is. -/
def stepOn (s : LinkState) (c : Link.Connection String) :
    LinkStep → LinkState × LinkAnswer × Deliveries
  | .make calls unchecked => let (s, answer) := s.make calls unchecked; (s, answer, [])
  | .jobsClient => (s, .libraryError Link.Connection.jobsRefusal, [])
  | .tunnelingClient | .secureTunnel => (s, .yes false, [])
  | .setHandlers lifecycle => ({ s with connection := some (c.setHandlers lifecycle) }, .nothing, [])
  | .connect options => s.answerYes (c.connect options)
  | .subscribe topic qos tag =>
    s.withCode qos fun qos => s.answerId (c.subscribe topic qos tag "")
  | .subscribeMany topics qos =>
    s.withCode qos fun qos => s.answerId (c.subscribeMany (topics.map fun t => (t, t)) qos "")
  | .unsubscribe topic => s.answerId (c.unsubscribe topic "")
  | .publish topic qos retain payload times =>
    s.withCode qos fun qos => s.answerId (publishTimes c topic qos retain payload times)
  | .disconnect => s.answerYes c.disconnect
  | .outgoing packet => s.answerEvent (c.outgoing packet)
  | .incoming packet => s.answerEvent (c.incoming packet)
  | .interrupted code => s.withCode code fun code => s.answerEvent (c.interrupted code)
  | .abandon code => s.withCode code fun code => s.answerEvent (c.abandon code)
  | .closed => s.answerEvent c.closed
  | .pollRefused =>
    match c.loop with
    | none => (s, .noTask, [])
    | some l =>
      if l.resting then (s, .yes true, [])
      else
        let (c, _, deliveries) := pollOnce c none
        ({ s with connection := some c }, .yes c.loop.isSome, deliveries)
  | .wait count =>
    let (c, broker, deliveries) :=
      if count = 0 then (c, s.broker, []) else pollUntil c s.broker count patience
    ({ connection := some c, broker }, .waited (count ≤ deliveries.length) c.loop.isSome, deliveries)

/-- A step, its answer and the signals it delivered. Without a link there is little to do. -/
def step (s : LinkState) (st : LinkStep) : LinkState × LinkAnswer × Deliveries :=
  match s.connection, st with
  | some c, st => s.stepOn c st
  | none, .make calls unchecked => let (s, answer) := s.make calls unchecked; (s, answer, [])
  | none, .secureTunnel => (s, .yes false, [])
  | none, _ => (s, .noConnection, [])

end LinkState

end DeviceLink.Bench
