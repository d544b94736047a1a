import DeviceLink.Jobs.Code
/-!
# Faults of the simulated library

A step that the simulated library is told to refuse. The set in force is shared by the
library and everything made by it.
-/

namespace DeviceLink.Simulated

/-- A step that is refused. -/
inductive Fault
  | newConnection
  | connect
  | subscribe (topic : Jobs.Topic)
  | jobsClient
  | tunnelingClient
  | notifySubscribe
  | tunnelBuild
  /-- Operations on live objects are refused. -/
  | operationsRejected
  deriving DecidableEq, Repr

/-- The faults in force. -/
abbrev Faults := List Fault

namespace Faults

/-- Whether a fault is in force. -/
def isSet (faults : Faults) (fault : Fault) : Bool := fault ∈ faults

/-- One more fault. -/
def inject (faults : Faults) (fault : Fault) : Faults :=
  if faults.isSet fault then faults else fault :: faults

/-- One fault less. -/
def clear (faults : Faults) (fault : Fault) : Faults := faults.filter (· ≠ fault)

end Faults

end DeviceLink.Simulated
