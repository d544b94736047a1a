import DeviceLink.Simulated.Connection
import DeviceLink.Simulated.Jobs
import DeviceLink.Simulated.Tunnel
/-!
# The simulated library

The maker of simulated connections, jobs clients, tunneling clients and tunnels. An object
lives as long as someone holds it; the library counts the objects made and the ones alive.
-/

namespace DeviceLink.Simulated

open Mqtt

/-- An object and how many hold it. -/
structure Held (α : Type) where
  object : α
  holders : Nat
  deriving DecidableEq, Repr

/-- Objects of one sort, numbered in the order they were made. -/
abbrev Shelf (α : Type) := List (Held α)

namespace Shelf

variable {α : Type}

/-- The object with a number, if it is alive. -/
def get? (s : Shelf α) (i : Nat) : Option α :=
  match s[i]? with
  | some h => if h.holders = 0 then none else some h.object
  | none => none

/-- The shelf with an object replaced. -/
def put (s : Shelf α) (i : Nat) (a : α) : Shelf α :=
  s.modify i fun h => { h with object := a }

/-- The shelf with one holder more. -/
def retain (s : Shelf α) (i : Nat) : Shelf α :=
  s.modify i fun h => { h with holders := h.holders + 1 }

/-- The shelf with one holder less. -/
def release (s : Shelf α) (i : Nat) : Shelf α :=
  s.modify i fun h => { h with holders := h.holders - 1 }

/-- Whether an object has just one holder left. -/
def isLast (s : Shelf α) (i : Nat) : Bool :=
  match s[i]? with
  | some h => h.holders = 1
  | none => false

/-- The number of objects alive. -/
def countAlive (s : Shelf α) : Nat := (s.filter fun h => h.holders ≠ 0).length

end Shelf

/-- The state of the library and all it made. -/
structure Library (ρ : Type) where
  faults : Faults := []
  live : Nat := 0
  created : Nat := 0
  connections : Shelf (Connection ρ) := []
  jobsClients : Shelf (JobsClient ρ) := []
  tunnelingClients : Shelf (TunnelingClient ρ) := []
  tunnels : Shelf (Tunnel ρ) := []
  deriving Repr

namespace Library

variable {ρ : Type}

/-- The library after it made one object. -/
def count (l : Library ρ) : Library ρ := { l with live := l.live + 1, created := l.created + 1 }

/-! ## Making objects -/

/-- A new connection with one holder, and its number. -/
def newConnection (l : Library ρ) (config : Config) : Except LibraryError (Library ρ × Nat) :=
  if l.faults.isSet .newConnection then
    .error (.connection "injected new_connection failure")
  else
    .ok ({ l.count with connections := l.connections ++ [⟨{ config }, 1⟩] },
      l.connections.length)

/-- A new jobs client with one holder, and its number. -/
def newJobsClient (l : Library ρ) : Except LibraryError (Library ρ × Nat) :=
  if l.faults.isSet .jobsClient then .error (.other "injected jobs client failure")
  else
    .ok ({ l.count with jobsClients := l.jobsClients ++ [⟨{}, 1⟩] }, l.jobsClients.length)

/-- A new tunneling client with one holder, and its number. -/
def newTunnelingClient (l : Library ρ) : Option (Library ρ × Nat) :=
  if l.faults.isSet .tunnelingClient then none
  else
    some ({ l.count with tunnelingClients := l.tunnelingClients ++ [⟨{}, 1⟩] },
      l.tunnelingClients.length)

/-- A new tunnel with one holder, and its number. -/
def newTunnel (l : Library ρ) (draft : Tunnel.Draft ρ) : Option (Library ρ × Nat) :=
  if l.faults.isSet .tunnelBuild then none
  else some ({ l.count with tunnels := l.tunnels ++ [⟨{ draft }, 1⟩] }, l.tunnels.length)

/-! ## Holding and letting go -/

/-- One object less alive, if the last holder lets go of it. -/
def discount (l : Library ρ) (isLast : Bool) : Library ρ :=
  { l with live := l.live - isLast.toNat }

/-- One holder more of a connection. -/
def retainConnection (l : Library ρ) (i : Nat) : Library ρ :=
  { l with connections := l.connections.retain i }

/-- One holder less of a connection. -/
def releaseConnection (l : Library ρ) (i : Nat) : Library ρ :=
  { l.discount (l.connections.isLast i) with connections := l.connections.release i }

/-- One holder less of a jobs client. -/
def releaseJobsClient (l : Library ρ) (i : Nat) : Library ρ :=
  { l.discount (l.jobsClients.isLast i) with jobsClients := l.jobsClients.release i }

/-- One holder less of a tunneling client. -/
def releaseTunnelingClient (l : Library ρ) (i : Nat) : Library ρ :=
  { l.discount (l.tunnelingClients.isLast i) with
    tunnelingClients := l.tunnelingClients.release i }

/-- One holder less of a tunnel. -/
def releaseTunnel (l : Library ρ) (i : Nat) : Library ρ :=
  { l.discount (l.tunnels.isLast i) with tunnels := l.tunnels.release i }

/-- A connection under the faults in force. -/
def endpoint? (l : Library ρ) (i : Nat) : Option (Endpoint ρ) :=
  (l.connections.get? i).map fun connection => ⟨connection, l.faults⟩

/-- The library with a connection replaced. -/
def putConnection (l : Library ρ) (i : Nat) (c : Connection ρ) : Library ρ :=
  { l with connections := l.connections.put i c }

/-- The library with a jobs client replaced. -/
def putJobsClient (l : Library ρ) (i : Nat) (c : JobsClient ρ) : Library ρ :=
  { l with jobsClients := l.jobsClients.put i c }

/-- The library with a tunneling client replaced. -/
def putTunnelingClient (l : Library ρ) (i : Nat) (c : TunnelingClient ρ) : Library ρ :=
  { l with tunnelingClients := l.tunnelingClients.put i c }

/-- The library with a tunnel replaced. -/
def putTunnel (l : Library ρ) (i : Nat) (t : Tunnel ρ) : Library ρ :=
  { l with tunnels := l.tunnels.put i t }

end Library

end DeviceLink.Simulated
