import DeviceLink.Link.Connection
/-!
# The scripted broker

A broker that answers by a script, and an event loop that talks to it. Where there is no
broker the network refuses the loop. The broker acknowledges what it gets at once and keeps
a log.
-/

namespace DeviceLink.Simulated

open Mqtt Link

/-- How a broker behaves. -/
structure Script where
  connAck : ReturnCode := .accepted
  sessionPresent : Bool := false
  /-- The connect request is answered by a packet that does not belong there. -/
  withholdsConnAck : Bool := false
  /-- Packets sent once the connection is accepted. -/
  greet : List Packet := []
  /-- Whether the broker hangs up after that. -/
  hangsUp : Bool := false
  /-- The codes for every subscription; without them each gets what it asked for. -/
  granted : Option (List Qos) := none
  /-- Whether every publish is sent back. -/
  echo : Bool := false
  /-- Packets sent after each acknowledgement of a subscription. -/
  afterSubscribe : List Packet := []
  deriving DecidableEq, Repr

/-- A broker and what it has received. -/
structure Broker where
  script : Script
  log : List Frame := []
  deriving DecidableEq, Repr

namespace Broker

/-- A publish sent back, without its flags. -/
def echoOf (m : Message) : Packet :=
  .publish { m with qos := .atMostOnce, dup := false, retain := false }

/-- What a script answers. -/
def answers (s : Script) : Frame → List Packet
  | .connect .. =>
    if s.withholdsConnAck then [.pingResp] else .connAck s.connAck s.sessionPresent :: s.greet
  | .subscribe pkid filters =>
    .subAck pkid (s.granted.getD (filters.map (·.2))) :: s.afterSubscribe
  | .unsubscribe pkid _ => [.unsubAck pkid]
  | .publish pkid m =>
    let echo := if s.echo then [echoOf m] else []
    match m.qos with
    | .atLeastOnce => .pubAck pkid :: echo
    | .exactlyOnce => .pubRec pkid :: echo
    | .atMostOnce | .failure => echo
  | .pubRel pkid => [.pubComp pkid]
  | .disconnect => []

/-- The broker after a frame, and its answer. -/
def receive (b : Broker) (f : Frame) : Broker × List Packet :=
  ({ b with log := b.log ++ [f] }, answers b.script f)

/-- The broker after several frames, and its answers in order. -/
def receiveAll (b : Broker) : List Frame → Broker × List Packet
  | [] => (b, [])
  | f :: rest =>
    let (b, first) := b.receive f
    let (b, others) := b.receiveAll rest
    (b, first ++ others)

/-- How often a subscription was received. -/
def subscriptions (b : Broker) : Nat :=
  (b.log.filter fun f => match f with | .subscribe .. => true | _ => false).length

end Broker

/-- A loop with a network to a broker, or refused where there is none. -/
def dial (l : Loop) : Option Broker → Loop × Option Broker
  | none => ({ l with events := .failed .io :: l.events }, none)
  | some b =>
    let (b, packets) := b.receive (.connect l.options l.credentials)
    (l.attach { arrived := packets, hungUp := b.script.hangsUp }, some b)

/-- What a loop does next: it finds itself a network or acts on the one it has. -/
def advance (l : Loop) (b : Option Broker) : Loop × Option Broker :=
  match l.network with
  | none => dial l b
  | some _ =>
    let (l, frames) := l.act
    match b with
    | none => (l, none)
    | some b =>
      let (b, packets) := b.receiveAll frames
      (l.arrive packets, some b)

/-- Whether a loop has nothing to do until something arrives. -/
def isQuiet (l : Loop) : Bool :=
  l.events.isEmpty && l.send?.isNone &&
    match l.network with
    | none => false
    | some n => n.arrived.isEmpty && !n.hungUp

/-- The next poll of a loop: one that is ready on its network, or what it does next leads to.
A loop at rest is awake again. -/
def nextPoll (l : Loop) (b : Option Broker) : Loop × Option Broker × Option Poll :=
  let (l, b) :=
    if l.network.isNone || l.events.isEmpty then advance { l with resting := false } b else (l, b)
  match l.next? with
  | none => (l, b, none)
  | some (poll, l) => (l, b, some poll)

/-- One poll of the event loop of a link, if one runs, and the reaction to it. -/
def pollOnce {ρ : Type} (c : Connection ρ) (b : Option Broker) :
    Connection ρ × Option Broker × List (Delivery ρ) :=
  match c.loop with
  | none => (c, b, [])
  | some l =>
    let (l, b, poll) := nextPoll l b
    let c := { c with loop := some l }
    match poll with
    | none => (c, b, [])
    | some poll =>
      let (c, deliveries) := c.react poll
      (c, b, deliveries)

/-- Polls on the network there is that deliver no signal: what has arrived and concerns nobody
is gone through at once. -/
def settle {ρ : Type} (c : Connection ρ) (b : Option Broker) :
    (patience : Nat) → Connection ρ × Option Broker
  | 0 => (c, b)
  | patience + 1 =>
    match c.loop with
    | none => (c, b)
    | some l =>
      if l.network.isNone || isQuiet l then (c, b)
      else
        let (next, rest, deliveries) := pollOnce c b
        let networkLasts := (next.loop.bind Loop.network).isSome
        if deliveries.isEmpty && networkLasts then settle next rest patience else (c, b)

/-- Polls until as many signals were delivered and those after them have none, the loop has
ended or is quiet, or patience runs out. -/
def pollUntil {ρ : Type} (c : Connection ρ) (b : Option Broker) (count : Nat) :
    (patience : Nat) → Connection ρ × Option Broker × List (Delivery ρ)
  | 0 => (c, b, [])
  | patience + 1 =>
    match c.loop with
    | none => (c, b, [])
    | some l =>
      if isQuiet l then (c, b, [])
      else
        let (c, b, first) := pollOnce c b
        if count ≤ first.length then
          let (c, b) := settle c b patience
          (c, b, first)
        else
          let (c, b, others) := pollUntil c b (count - first.length) patience
          (c, b, first ++ others)

end DeviceLink.Simulated
