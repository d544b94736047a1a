import DeviceLink.Mqtt.Code
import DeviceLink.Simulated.Fault
import DeviceLink.Tunnel.Notice
import DeviceLink.Tunnel.Session
/-!
# Simulated tunnels

The client that tells of opened tunnels, and a tunnel, both driven by hand. A tunnel takes
messages only while it is started.
-/

namespace DeviceLink.Simulated

open DeviceLink.Tunnel

/-- The state of a simulated tunneling client. -/
structure TunnelingClient (ρ : Type) where
  /-- The things subscribed for. -/
  requests : List (String × Mqtt.Qos) := []
  handlers : List ρ := []
  pending : List ρ := []
  deriving DecidableEq, Repr

namespace TunnelingClient

variable {ρ : Type}

/-- Subscribing for a thing, and whether it was accepted. -/
def subscribe (c : TunnelingClient ρ) (faults : Faults) (thing : String) (qos : Mqtt.Qos)
    (receiver : ρ) : TunnelingClient ρ × Bool :=
  if faults.isSet .notifySubscribe || faults.isSet .operationsRejected then (c, false)
  else
    ({ c with
      requests := c.requests ++ [(thing, qos)]
      handlers := c.handlers ++ [receiver]
      pending := c.pending ++ [receiver] }, true)

/-- The acknowledgement of every pending subscription. -/
def complete (c : TunnelingClient ρ) (code : Int) :
    TunnelingClient ρ × List (ρ × Listener.Signal) :=
  ({ c with pending := [] }, c.pending.map (·, .subscribed code))

/-- A report for every subscription. -/
def fire (c : TunnelingClient ρ) (response : Option Opened) (ioError : Int) :
    List (ρ × Listener.Signal) :=
  c.handlers.map (·, .opened response ioError)

end TunnelingClient

/-- The status of a tunnel call that failed. -/
def failedStatus : Int := -1

/-- The state of a simulated tunnel. -/
structure Tunnel (ρ : Type) where
  draft : Draft ρ
  started : Bool := false
  sent : List Outbound := []
  deriving DecidableEq, Repr

namespace Tunnel

variable {ρ : Type}

/-- Starting the tunnel, and the status: zero if it worked. -/
def start (t : Tunnel ρ) (faults : Faults) : Tunnel ρ × Int :=
  if faults.isSet .operationsRejected then (t, failedStatus) else ({ t with started := true }, 0)

/-- Stopping a started tunnel. -/
def stop (t : Tunnel ρ) : Tunnel ρ × Int :=
  ({ t with started := false }, if t.started then 0 else failedStatus)

/-- Sending a message through a started tunnel. -/
def send (t : Tunnel ρ) (faults : Faults) (m : Outbound) : Tunnel ρ × Int :=
  if ¬t.started ∨ faults.isSet .operationsRejected then (t, failedStatus)
  else ({ t with sent := t.sent ++ [m] }, 0)

/-- An event for the receiver of its slot, if it has one. -/
def fire (t : Tunnel ρ) (e : Event) : Option (ρ × Event) :=
  (t.draft.slots.lookup e.slot).map (·, e)

end Tunnel

end DeviceLink.Simulated
