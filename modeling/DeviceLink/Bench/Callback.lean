import DeviceLink.Jobs.Job
import DeviceLink.Jobs.Queue
import DeviceLink.Mqtt.Client
import DeviceLink.Tunnel.Notice
import DeviceLink.Tunnel.Session
/-!
# Callbacks to a user

The callbacks of every sort of handle as one type, what a user can look at in them, and what
happens when one panics: the panic is noted and goes no further.
-/

namespace DeviceLink.Bench

/-- A call to the user of a handle. -/
inductive Callback
  | mqtt (c : Mqtt.Callback)
  | queue (c : Jobs.Queue.Callback)
  | job (c : Jobs.Job.Callback)
  | listener (c : Tunnel.Listener.Callback)
  | tunnel (c : Tunnel.Callback)
  deriving DecidableEq, Repr

namespace Callback

/-- The name of a callback. -/
def name : Callback → String
  | mqtt c => c.name
  | queue c => c.name
  | job c => c.name
  | listener c => c.name
  | tunnel c => c.name

/-- The executions that a callback lends. -/
def infos : Callback → List Jobs.Info
  | queue (.startNextAccepted _ info _) | queue (.nextExecutionChanged info _ _)
  | job (.describeAccepted _ info _) | job (.updateAccepted _ info _) => info.toList
  | _ => []

/-- The payloads of a callback by the names they are looked at under, with the fields that
are there: an execution, a rejection, or a list of pending executions and each of them. -/
def observed (c : Callback) : List (String × List String) :=
  match c with
  | queue (.getPendingAccepted pending _) =>
    (c.name, pending.present) ::
      (pending.queued ++ pending.inProgress).map fun s => (c.name ++ ".job", s.present)
  | queue (.getPendingRejected rejected _) | queue (.startNextRejected rejected _)
  | job (.describeRejected rejected _) | job (.updateRejected rejected _) =>
    [(c.name, rejected.present)]
  | _ => c.infos.map fun info => (c.name, info.present)

/-- The documents lent by a callback, and whether the caller would own them. -/
def documents (c : Callback) : List Buffer := c.infos.map (·.document)

end Callback

/-- What a panic carries. -/
inductive Panic
  | text (message : String)
  | other
  deriving DecidableEq, Repr

/-- A panic in words. -/
def Panic.message : Panic → String
  | text message => message
  | other => "non-string payload"

/-- What is noted of a callback that panicked. -/
def Callback.panicNote (c : Callback) (p : Panic) : Log.Line :=
  ⟨.error, s!"{c.name} callback panicked: {p.message}"⟩

/-- What the user does at each invocation, by its number: most often nothing, at times a
panic. -/
abbrev Reaction := Nat → Callback → Option Panic

/-- Callbacks of certain names panic. -/
def Reaction.byName (names : List String) (p : Panic) : Reaction := fun _ c =>
  if c.name ∈ names then some p else none

end DeviceLink.Bench
