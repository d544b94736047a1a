import DeviceLink.Agent.Credentials
import DeviceLink.Agent.Handler
import DeviceLink.Link.Connection
/-!
# The agent

From a settings file to a link that connects, and from there on one event after another until
the session ends.
-/

namespace DeviceLink.Agent

open Mqtt

/-- The settings file that is read where none is named. -/
def defaultPath : String := "/etc/tether/agent.toml"

/-- The agent at work. -/
structure State where
  settings : Settings
  connection : Link.Connection Unit
  session : Session := {}
  /-- The notes of the agent, in order. -/
  traces : List Trace := []

/-- Why the agent ended without being asked to. -/
inductive Ending
  | settings (cause : SettingsFault)
  | start (cause : AgentError)
  | sessionEnded

/-- The wording of a fault of the settings. -/
def SettingsFault.message : SettingsFault → String
  | file cause => cause.message
  | noDocument => "TOML parse error"
  | decode cause => cause.message

/-- The wording of an ending. -/
def Ending.message : Ending → String
  | settings cause => cause.message
  | start cause => cause.message
  | sessionEnded => "mqtt session ended with no reconnect pending"

/-- A link that has started to connect for a client. -/
def dial (config : ClientConfig) : Except ClientError (Link.Connection Unit) := do
  let checked ← config.config
  match Link.Connection.ofConfig checked with
  | .error e => throw (Client.connectionError e)
  | .ok c =>
    let (c, started) := Client.start c () config
    started
    pure c

namespace State

/-- The agent of a settings file, connecting. -/
def start (files : Files) (path : String) (draw : Draw) : Except Ending State := do
  let settings ← (Settings.load files path).mapError .settings
  let credentials ← (Credentials.load files settings.mqtt).mapError .start
  let clientId := settings.mqtt.resolvedClientId draw
  let config := credentials.clientConfig settings.mqtt clientId
  let connection ← (dial config).mapError fun e => .start (.client e)
  pure { settings, connection }

/-- The session told of deliveries. -/
def hear (a : State) (deliveries : List (Delivery Unit)) : State :=
  let callbacks := deliveries.flatMap fun d => d.signal.callbacks
  { a with session := callbacks.foldl Session.tell a.session }

/-- Handling an event. -/
def handle (a : State) (e : Event) : State :=
  let handled := Agent.handle a.connection () a.settings.topics a.settings.qos e
  { a with connection := handled.connection, traces := a.traces ++ handled.traces }

/-- Handling events up to the first that ends the session, and whether there was one. -/
def handleUntilEnd (a : State) : List Event → State × Bool
  | [] => (a, false)
  | e :: rest =>
    let a := a.handle e
    if e.endsSession then (a, true) else a.handleUntilEnd rest

/-- Handling what the session holds, and whether it has ended. -/
def attend (a : State) : State × Bool :=
  { a with session := { a.session with mailbox := [] } }.handleUntilEnd a.session.mailbox

/-- Starting to close the connection. -/
def disconnect (a : State) : State × Bool :=
  let reply := Client.disconnect a.connection
  ({ a with connection := reply.connection }, reply.answer)

end State

end DeviceLink.Agent
