import DeviceLink.Agent.Run
import DeviceLink.Simulated.Broker
/-!
# The agent on a simulated site

The agent with a scripted broker, or with none, and a user who interrupts it once it has
subscribed a number of times.
-/

namespace DeviceLink.Simulated

open Mqtt Link DeviceLink.Agent

/-- The agent and its surroundings. -/
structure Site where
  agent : Agent.State
  broker : Option Broker := none
  /-- The number of subscriptions after which the user interrupts the agent. -/
  interruptAfter : Option Nat := none

namespace Site

/-- One poll of the event loop, heard by the session. -/
def poll (s : Site) : Site :=
  let (connection, broker, deliveries) := pollOnce s.agent.connection s.broker
  { s with agent := { s.agent with connection }.hear deliveries, broker }

/-- Whether the user interrupts now. -/
def isInterrupted (s : Site) : Bool :=
  match s.broker, s.interruptAfter with
  | some b, some n => n ≤ b.subscriptions
  | _, _ => false

/-- Polls after an interruption until the connection is closed. -/
def windDown (s : Site) : (patience : Nat) → Site
  | 0 => s
  | patience + 1 =>
    if s.agent.session.status = .closed then s else s.poll.windDown patience

/-- The agent until it ends: how, where it failed, and what it left. It is still at work
where patience runs out. -/
def run (s : Site) : (patience : Nat) → Option (Option Ending) × Site
  | 0 => (none, s)
  | patience + 1 =>
    if s.isInterrupted then
      let (agent, started) := s.agent.disconnect
      let s := { s with agent }
      (some none, if started then s.windDown patience else s)
    else
      let s := s.poll
      let (agent, ended) := s.agent.attend
      let s := { s with agent }
      if ended then (some (some .sessionEnded), s) else s.run patience

end Site

end DeviceLink.Simulated
