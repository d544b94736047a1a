import DeviceLink.Agent.Session
import DeviceLink.Bench.Callback
import DeviceLink.Simulated.Library
/-!
# The bench

Handles on objects of one simulated library, and the users they report to. A handle holds
its object, and the connection it was built on; what a native object tells goes to the
receiver that was registered with it. The journal takes down what a step brought about.
-/

namespace DeviceLink.Bench

open Simulated

/-- Who is registered with a native object. -/
inductive Receiver
  | client (name : String)
  /-- The session of an agent in the place of a user. -/
  | session (name : String)
  | queue (name : String)
  | job (name : String)
  | listener (name : String)
  | tunnel (name : String)
  /-- A handler of the bench's own, without a handle between. -/
  | raw
  deriving DecidableEq, Repr

/-- What a handle holds: the number of its object, and of the connection it keeps alive. -/
inductive Holding
  | client (connection : Nat)
  | rawConnection (connection : Nat)
  | queue (client connection : Nat) (thing : String)
  | job (client connection : Nat) (thing job : String)
  | rawJobs (client : Nat)
  | listener (client connection : Nat) (thing : String)
  | tunnel (tunnel : Nat)
  | rawTunnel (tunnel : Nat)
  deriving DecidableEq, Repr

/-- A handle; one that was dropped keeps its name. -/
structure Handle where
  holding : Holding
  dropped : Bool := false
  deriving DecidableEq, Repr

/-- What a handler of the bench's own was told. -/
inductive Raw
  | connection (s : Mqtt.Signal)
  | jobs (s : Jobs.Signal)
  | tunnel (e : Tunnel.Event)
  deriving Repr

/-- What a step brought about, the latest first. -/
structure Journal where
  calls : List (String × Callback) := []
  raw : List Raw := []
  log : List Log.Line := []
  deriving Repr

/-- The bench. -/
structure State where
  library : Library Receiver := {}
  handles : List (String × Handle) := []
  /-- The number of handles made. -/
  made : Nat := 0
  limits : Log.Limits := []
  reaction : Reaction := fun _ _ => none
  /-- The number of callbacks made. -/
  invocations : Nat := 0
  sessions : List (String × Agent.Session) := []
  /-- The events of sessions that were shown and not yet handled. -/
  shown : List (String × List Agent.Event) := []
  journal : Journal := {}

namespace State

/-- A line for the log, unless the limits keep it out. -/
def note (s : State) (line : Log.Line) : State :=
  if s.limits.admits line.level then
    { s with journal := { s.journal with log := line :: s.journal.log } }
  else s

/-- Several lines for the log, in order. -/
def noteAll (s : State) (lines : List Log.Line) : State := lines.foldl note s

/-- A callback to a user. A panic is noted instead of what the user would have seen. -/
def invoke (s : State) (name : String) (c : Callback) : State :=
  let reacted := s.reaction s.invocations c
  let s := { s with invocations := s.invocations + 1 }
  match reacted with
  | some p => s.note (c.panicNote p)
  | none => { s with journal := { s.journal with calls := (name, c) :: s.journal.calls } }

/-- Something told to a handler of the bench's own. -/
def tellRaw (s : State) (r : Raw) : State :=
  { s with journal := { s.journal with raw := r :: s.journal.raw } }

/-- A callback to the session of an agent. -/
def tellSession (s : State) (name : String) (c : Mqtt.Callback) : State :=
  { s with sessions := s.sessions.map fun (n, session) =>
      if n = name then (n, session.tell c) else (n, session) }

/-- A signal of a connection. -/
def tellMqtt (s : State) (d : Mqtt.Delivery Receiver) : State :=
  match d.receiver with
  | .client name =>
    d.signal.callbacks.foldl (fun s c => s.invoke name (.mqtt c)) (s.noteAll d.signal.note.toList)
  | .session name =>
    d.signal.callbacks.foldl (fun s c => s.tellSession name c) (s.noteAll d.signal.note.toList)
  | .raw => s.tellRaw (.connection d.signal)
  | .queue _ | .job _ | .listener _ | .tunnel _ => s

/-- A signal of a jobs client. -/
def tellJobs (s : State) (receiver : Receiver) (signal : Jobs.Signal) : State :=
  match receiver with
  | .queue name =>
    match Jobs.Queue.callback signal with
    | some c => s.invoke name (.queue c)
    | none => s
  | .job name =>
    match Jobs.Job.callback signal with
    | some c => s.invoke name (.job c)
    | none => s
  | .raw => s.tellRaw (.jobs signal)
  | .client _ | .session _ | .listener _ | .tunnel _ => s

/-- A signal of a tunneling client. -/
def tellListener (s : State) (receiver : Receiver) (signal : Tunnel.Listener.Signal) : State :=
  match receiver with
  | .listener name =>
    match Tunnel.Listener.callback signal with
    | .ok c => s.invoke name (.listener c)
    | .error line => s.note line
  | .client _ | .session _ | .queue _ | .job _ | .tunnel _ | .raw => s

/-- An event of a tunnel. -/
def tellTunnel (s : State) (receiver : Receiver) (e : Tunnel.Event) : State :=
  match receiver with
  | .tunnel name => s.invoke name (.tunnel e.callback)
  | .raw => s.tellRaw (.tunnel e)
  | .client _ | .session _ | .queue _ | .job _ | .listener _ => s

/-- Signals of a connection, in order. -/
def tellAllMqtt (s : State) (ds : List (Mqtt.Delivery Receiver)) : State := ds.foldl tellMqtt s

/-- Signals of a jobs client, in order. -/
def tellAllJobs (s : State) (ds : List (Receiver × Jobs.Signal)) : State :=
  ds.foldl (fun s d => s.tellJobs d.1 d.2) s

/-- Signals of a tunneling client, in order. -/
def tellAllListener (s : State) (ds : List (Receiver × Tunnel.Listener.Signal)) : State :=
  ds.foldl (fun s d => s.tellListener d.1 d.2) s

end State

end DeviceLink.Bench
