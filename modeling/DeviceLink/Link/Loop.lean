import DeviceLink.Link.Size
/-!
# The event loop of a link

The loop holds the commands a connection has handed over and not seen sent. Once it has a
network it takes them one by one, gives packet ids and keeps the publishes that wait for an
acknowledgement. What is too large to be sent, and an arrived packet that is too large, fail
the network. When the network fails the loop keeps unacknowledged publishes and commands not
yet taken, to be sent again if the broker kept the session.
-/

namespace DeviceLink.Link

open Mqtt

/-- What the loop sends to the broker. Answers to the broker's own packets are left out. -/
inductive Frame
  | connect (options : ConnectOptions) (credentials : Option (String × String))
  | subscribe (pkid : Nat) (filters : List (String × Qos))
  | unsubscribe (pkid : Nat) (topic : String)
  | publish (pkid : Nat) (m : Message)
  | pubRel (pkid : Nat)
  | disconnect
  deriving DecidableEq, Repr

/-- A network connection to the broker: the packets that have arrived and not been read, and
whether the broker has hung up after them. -/
structure Network where
  arrived : List Packet := []
  hungUp : Bool := false
  deriving DecidableEq, Repr

/-- What is sent before anything new after a failure of the network. -/
inductive Resend
  | publish (pkid : Nat) (m : Message)
  | release (pkid : Nat)
  | command (c : Command)
  deriving DecidableEq, Repr

/-- The length of what is sent again. A publish keeps the packet id of its first sending. -/
def Resend.length : Resend → Nat
  | publish pkid m =>
    textOctets m.topic + (if m.qos = .atMostOnce ∨ pkid = 0 then 0 else 2) + m.payload.length
  | release _ => 2
  | command c => c.length

/-- Whether something is small enough to be sent. -/
def Resend.fits (r : Resend) : Bool := octets r.length ≤ maxOctets

/-- The state of an event loop. -/
structure Loop where
  options : ConnectOptions
  credentials : Option (String × String) := none
  /-- Commands handed over and not yet taken. -/
  waiting : List Command := []
  resends : List Resend := []
  network : Option Network := none
  /-- Whether the loop rests before it looks for a network again. -/
  resting : Bool := false
  /-- Polls not yet given. -/
  events : List Poll := []
  lastPkid : Nat := 0
  /-- Publishes that wait for an acknowledgement. -/
  unacked : List (Nat × Message) := []
  /-- Publishes that wait for the last part of theirs. -/
  unreleased : List Nat := []
  deriving DecidableEq, Repr

/-- The most commands that wait for the loop. -/
def capacity : Nat := 64

/-- The most packets that are read at once. -/
def maxBatch : Nat := 10

/-- The largest packet id. -/
def maxPkid : Nat := 100

namespace Loop

/-- Whether the loop takes one command more. -/
def hasRoom (l : Loop) : Bool := l.waiting.length < capacity

/-- The loop with one command more. -/
def hand (l : Loop) (c : Command) : Loop := { l with waiting := l.waiting ++ [c] }

/-- The packet id after another one: ids run from 1 to `maxPkid` and start over. -/
def nextPkid (l : Loop) : Nat := l.lastPkid % maxPkid + 1

/-- What is left of a loop when its network fails. The failure comes before all polls that are
not yet given. -/
def fail (l : Loop) (f : Failure) : Loop :=
  { l with
    network := none
    waiting := []
    resends := l.resends ++ l.unacked.map (fun (pkid, m) => .publish pkid m) ++
      l.unreleased.map .release ++ l.waiting.map .command
    unacked := []
    unreleased := []
    events := .failed f :: l.events }

/-- A new network, on which the broker answered the connect request with some packets. The
first has to accept it. What was kept is dropped if the broker did not keep the session. -/
def attach (l : Loop) (n : Network) : Loop :=
  match n.arrived with
  | .connAck .accepted sessionPresent :: rest =>
    { l with
      network := some { n with arrived := rest }
      resends := if sessionPresent then l.resends else []
      events := .incoming (.connAck .accepted sessionPresent) :: l.events }
  | .connAck code _ :: _ => { l with events := .failed (.refused code) :: l.events }
  | _ => { l with events := .failed .notConnAck :: l.events }

/-- Sending a publish, under the id of its first sending if it had one. -/
def sendPublish (l : Loop) (pkid : Nat) (m : Message) : Loop × List Frame :=
  let unacked := if m.qos = .atMostOnce then l.unacked else l.unacked ++ [(pkid, m)]
  ({ l with unacked, events := l.events ++ [.outgoing (.publish pkid)] }, [.publish pkid m])

/-- Carrying out a command. A publish without acknowledgement goes under the id zero. -/
def carryOut (l : Loop) : Command → Loop × List Frame
  | .subscribe filters =>
    let pkid := l.nextPkid
    ({ l with lastPkid := pkid, events := l.events ++ [.outgoing (.subscribe pkid)] },
      [.subscribe pkid filters])
  | .unsubscribe topic =>
    let pkid := l.nextPkid
    ({ l with lastPkid := pkid, events := l.events ++ [.outgoing (.unsubscribe pkid)] },
      [.unsubscribe pkid topic])
  | .publish topic qos retain payload =>
    let m : Message := { topic, payload, dup := false, qos, retain }
    if qos = .atMostOnce then l.sendPublish 0 m
    else { l with lastPkid := l.nextPkid }.sendPublish l.nextPkid m
  | .disconnect => ({ l with events := l.events ++ [.outgoing .disconnect] }, [.disconnect])

/-- Sending again what an earlier network left behind. -/
def resend (l : Loop) : Resend → Loop × List Frame
  | .publish pkid m => l.sendPublish pkid m
  | .release pkid =>
    ({ l with
      unreleased := l.unreleased ++ [pkid]
      events := l.events ++ [.outgoing (.pubRel pkid)] }, [.pubRel pkid])
  | .command c => l.carryOut c

/-- Sending something, unless it is too large, which fails the network. -/
def dispatch (l : Loop) (r : Resend) : Loop × List Frame :=
  if r.fits then l.resend r else (l.fail .protocol, [])

/-- Sending the next thing, if there is one. What was kept goes before new commands. -/
def send? (l : Loop) : Option (Loop × List Frame) :=
  match l.resends, l.waiting with
  | r :: rest, _ => some ({ l with resends := rest }.dispatch r)
  | [], c :: rest => some ({ l with waiting := rest }.dispatch (.command c))
  | [], [] => none

/-- Taking in a packet. An acknowledgement of what was not sent, and a packet that a broker
does not send, fail the network. -/
def take (l : Loop) (p : Packet) : Loop × List Frame :=
  let seen (l : Loop) (more : List Poll) : Loop :=
    { l with events := l.events ++ .incoming p :: more }
  match p with
  | .publish _ | .subAck .. | .unsubAck _ | .pingResp => (seen l [], [])
  | .pubAck pkid =>
    if (l.unacked.lookup pkid).isSome then
      (seen { l with unacked := l.unacked.filter (·.1 ≠ pkid) } [], [])
    else (l.fail .protocol, [])
  | .pubRec pkid =>
    if (l.unacked.lookup pkid).isSome then
      (seen { l with
        unacked := l.unacked.filter (·.1 ≠ pkid)
        unreleased := l.unreleased ++ [pkid] } [.outgoing (.pubRel pkid)], [.pubRel pkid])
    else (l.fail .protocol, [])
  | .pubComp pkid =>
    if pkid ∈ l.unreleased then
      (seen { l with unreleased := l.unreleased.filter (· ≠ pkid) } [], [])
    else (l.fail .protocol, [])
  | .connAck .. | .pubRel _ | .pingReq | .disconnect => (l.fail .protocol, [])

/-- Reading a packet, unless it is too large. -/
def read (l : Loop) (p : Packet) : Loop × List Frame :=
  if p.fits then l.take p else (l.fail .protocol, [])

/-- Reading packets one after the other until one of them fails the network. -/
def readEach (l : Loop) : List Packet → Loop × List Frame
  | [] => (l, [])
  | p :: rest =>
    let (l, frames) := l.read p
    if l.network.isNone then (l, frames)
    else
      let (l, others) := l.readEach rest
      (l, frames ++ others)

/-- Reading a batch of what has arrived. Answers go out after the last packet of the batch, so
there are none where the network failed before. -/
def readBatch (l : Loop) (n : Network) : Loop × List Frame :=
  let l := { l with network := some { n with arrived := n.arrived.drop maxBatch } }
  let (l, frames) := l.readEach (n.arrived.take maxBatch)
  (l, if l.network.isNone then [] else frames)

/-- The next thing a loop does on its network: it sends while there is something to send,
then reads. It does nothing when there is neither. -/
def act (l : Loop) : Loop × List Frame :=
  match l.network with
  | none => (l, [])
  | some n =>
    match l.send? with
    | some result => result
    | none =>
      if ¬n.arrived.isEmpty then l.readBatch n
      else if n.hungUp then (l.fail .protocol, [])
      else (l, [])

/-- Packets arriving on the network. -/
def arrive (l : Loop) (packets : List Packet) : Loop :=
  { l with network := l.network.map fun n => { n with arrived := n.arrived ++ packets } }

/-- The next poll that is ready, and the loop without it. -/
def next? (l : Loop) : Option (Poll × Loop) :=
  match l.events with
  | e :: rest => some (e, { l with events := rest })
  | [] => none

end Loop

end DeviceLink.Link
