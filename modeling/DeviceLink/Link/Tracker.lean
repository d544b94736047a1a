import DeviceLink.Mqtt.Connection
/-!
# Tracking requests

A request has an id of its own from the moment it is accepted. It waits in the queue of its
kind until the event loop tells the packet id it was sent under, the oldest first; from then
on it waits for the acknowledgement of that packet. A publish that is not acknowledged is
done when it is sent.
-/

namespace DeviceLink.Link

open Mqtt

/-- The kinds of requests, each with a queue of its own. -/
inductive Kind
  | subscribe
  | unsubscribe
  | publish
  deriving DecidableEq, Repr, Inhabited

/-- An accepted request. `completion` is whatever is needed to tell of its end. -/
structure Request (κ : Type) where
  id : Nat
  qos : Qos
  completion : κ
  deriving DecidableEq, Repr

/-- A request that ended, the quality granted to it and an error code, zero for none. -/
structure Outcome (κ : Type) where
  request : Request κ
  granted : Qos
  code : Int
  deriving DecidableEq, Repr

/-- The requests that have not ended. -/
structure Tracker (κ : Type) where
  /-- Accepted, not yet sent, in the order of acceptance. -/
  queued : List (Kind × Request κ) := []
  /-- Sent under a packet id, not yet acknowledged. -/
  sent : List ((Kind × Nat) × Request κ) := []
  lastId : Nat := 0
  deriving DecidableEq, Repr

namespace Tracker

variable {κ : Type}

/-- A request under the next id. A request that is refused only uses up the id. -/
def submit (t : Tracker κ) (kind : Kind) (qos : Qos) (completion : κ) (accepted : Bool) :
    Tracker κ × Option Nat :=
  let id := nextId t.lastId
  if accepted then
    ({ t with lastId := id, queued := t.queued ++ [(kind, ⟨id, qos, completion⟩)] }, some id)
  else ({ t with lastId := id }, none)

/-- The oldest request of a kind, and the queue without it. -/
def takeOldest (kind : Kind) :
    List (Kind × Request κ) → Option (Request κ × List (Kind × Request κ))
  | [] => none
  | (k, r) :: rest =>
    if k = kind then some (r, rest)
    else (takeOldest kind rest).map fun (oldest, others) => (oldest, (k, r) :: others)

/-- A packet was sent. A packet id that is still waiting for its acknowledgement, or a kind
that nothing is queued of, means that an older packet was sent again. -/
def outgoing (t : Tracker κ) (kind : Kind) (pkid : Nat) : Tracker κ × Option (Outcome κ) :=
  if (t.sent.lookup (kind, pkid)).isSome then (t, none)
  else
    match takeOldest kind t.queued with
    | none => (t, none)
    | some (r, queued) =>
      if kind = .publish ∧ r.qos = .atMostOnce then
        ({ t with queued }, some ⟨r, .atMostOnce, 0⟩)
      else ({ t with queued, sent := t.sent ++ [((kind, pkid), r)] }, none)

/-- A packet was acknowledged. -/
def acknowledge (t : Tracker κ) (kind : Kind) (pkid : Nat) (granted : Qos) :
    Tracker κ × Option (Outcome κ) :=
  match t.sent.lookup (kind, pkid) with
  | none => (t, none)
  | some r =>
    ({ t with sent := t.sent.filter fun entry => entry.1 ≠ (kind, pkid) }, some ⟨r, granted, 0⟩)

/-- The requests that have not ended: the queued ones, then the sent ones. -/
def outstanding (t : Tracker κ) : List (Request κ) := t.queued.map (·.2) ++ t.sent.map (·.2)

/-- Every request that has not ended fails. -/
def abandon (t : Tracker κ) (code : ErrorCode) : Tracker κ × List (Outcome κ) :=
  ({ t with queued := [], sent := [] },
    t.outstanding.map fun r => ⟨r, .failure, code.code⟩)

/-- The ids of the queued requests of a kind, the oldest first. -/
def queuedIds (t : Tracker κ) (kind : Kind) : List Nat :=
  (t.queued.filter fun entry => entry.1 = kind).map fun entry => entry.2.id

end Tracker

end DeviceLink.Link
