import DeviceLink.Link.Loop
import DeviceLink.Link.Routes
import DeviceLink.Link.Tracker
/-!
# The link

A connection to a broker. Operations answer at once with the id of a request and hand a
command to the event loop; what the loop polls brings their completions, the messages and
the lifecycle signals. The loop ends when the connection is closed or its first attempt to
connect fails; after a later failure it rests a while and tries again.
-/

namespace DeviceLink.Link

open Mqtt

/-- The state of a link. -/
structure Connection (ρ : Type) where
  config : Config
  lifecycle : Lifecycle ρ := {}
  routes : Routes ρ := []
  tracker : Tracker (Completion × ρ) := {}
  /-- Whether there is a way to hand commands to the event loop. -/
  client : Bool := false
  /-- Whether the broker has accepted this connection before. -/
  connectedOnce : Bool := false
  online : Bool := false
  /-- Whether a disconnect is on its way. -/
  closing : Bool := false
  lastError : Int := 0
  /-- The event loop, while it runs. -/
  loop : Option Loop := none
  deriving DecidableEq, Repr

/-- The end of a request, for whoever waits for it. -/
def Outcome.delivery {ρ : Type} (o : Outcome (Completion × ρ)) : Delivery ρ :=
  ⟨o.request.completion.2, o.request.completion.1.signal o.request.id o.granted o.code⟩

namespace Connection

variable {ρ : Type}

/-- A link for a config. TLS needs a trust anchor. -/
def ofConfig (config : Config) : Except LibraryError (Connection ρ) :=
  if config.useTls ∧ config.authority.isNone then
    .error (.tls "a certificate authority is required for TLS connections")
  else .ok { config }

/-- A link needs something that runs its event loop. -/
def requireRuntime (present : Bool) : Except LibraryError Unit :=
  if present then .ok ()
  else .error (.other ("no tokio runtime: there is no reactor running, " ++
    "must be called from the context of a Tokio 1.x runtime"))

/-- What a link says of jobs, which it does not have. -/
def jobsRefusal : LibraryError := .unsupported "jobs"

/-- The link with the reason of a refusal or failure. -/
def fail (c : Connection ρ) (e : ErrorCode) : Connection ρ := { c with lastError := e.code }

/-! ## Operations -/

/-- The receivers of the lifecycle signals. -/
def setHandlers (c : Connection ρ) (lifecycle : Lifecycle ρ) : Connection ρ :=
  { c with lifecycle }

/-- Whether the options fit the config. -/
def admits (c : Connection ρ) (options : ConnectOptions) : Bool :=
  options.clientId ≠ "" && (!c.config.useTls || c.config.authority.isSome)

/-- The user name and password sent to the broker. -/
def credentials (c : Connection ρ) : Option (String × String) :=
  match c.config.auth with
  | .password username password => some (username, password)
  | .certificate .. => none

/-- Starting an event loop, unless one runs. -/
def connect (c : Connection ρ) (options : ConnectOptions) : Connection ρ × Bool :=
  if ¬c.admits options then (c.fail .connectOptionsValidation, false)
  else if c.loop.isSome then (c.fail .alreadyConnected, false)
  else
    ({ c with
      loop := some { options, credentials := c.credentials }
      client := true
      closing := false
      connectedOnce := false }, true)

/-- Whether the event loop takes a command. -/
def takes (c : Connection ρ) (command : Command) : Bool :=
  command.isSendable && (c.loop.map Loop.hasRoom).getD false

/-- The link with a command handed to its event loop. -/
def hand (c : Connection ρ) (command : Command) : Connection ρ :=
  { c with loop := c.loop.map fun l => l.hand command }

/-- A request and the command that carries it out. -/
def submit (c : Connection ρ) (kind : Kind) (qos : Qos) (completion : Completion) (onAck : ρ)
    (command : Command) : Connection ρ × Option Nat :=
  if ¬c.client then (c.fail .notConnected, none)
  else if c.closing then (c.fail .connectionDisconnecting, none)
  else
    let taken := c.takes command
    let (tracker, id) := c.tracker.submit kind qos (completion, onAck) taken
    let c := { c with tracker }
    if taken then (c.hand command, id) else (c.fail .queueFull, none)

/-- The link with filters routed, if their subscription was accepted. -/
def routed (result : Connection ρ × Option Nat) (entries : List (String × ρ)) :
    Connection ρ × Option Nat :=
  let (c, id) := result
  (if id.isSome then { c with routes := c.routes.putAll entries } else c, id)

/-- Subscribing to one topic. -/
def subscribe (c : Connection ρ) (topic : String) (qos : Qos) (onMessage onAck : ρ) :
    Connection ρ × Option Nat :=
  if ¬qos.isRequestable then (c.fail .invalidQos, none)
  else
    routed (c.submit .subscribe qos (.subscribe topic) onAck (.subscribe [(topic, qos)]))
      [(topic, onMessage)]

/-- Subscribing to several topics in one request. -/
def subscribeMany (c : Connection ρ) (topics : List (String × ρ)) (qos : Qos) (onAck : ρ) :
    Connection ρ × Option Nat :=
  let filters := topics.map (·.1)
  if ¬qos.isRequestable then (c.fail .invalidQos, none)
  else if topics.isEmpty then (c.fail .connectionResubscribeNoTopics, none)
  else
    routed (c.submit .subscribe qos (.subscribeMany filters) onAck
      (.subscribe (filters.map (·, qos)))) topics

/-- Ending the subscription to a filter. -/
def unsubscribe (c : Connection ρ) (topic : String) (onAck : ρ) : Connection ρ × Option Nat :=
  let (c, id) := c.submit .unsubscribe .atLeastOnce .unsubscribe onAck (.unsubscribe topic)
  (if id.isSome then { c with routes := c.routes.erase topic } else c, id)

/-- Publishing a payload. -/
def publish (c : Connection ρ) (topic : String) (qos : Qos) (retain : Bool)
    (payload : List UInt8) (onAck : ρ) : Connection ρ × Option Nat :=
  if ¬qos.isRequestable then (c.fail .invalidQos, none)
  else c.submit .publish qos .publish onAck (.publish topic qos retain payload)

/-- Starting to close the link. Where the loop takes no command the link stays open. -/
def disconnect (c : Connection ρ) : Connection ρ × Bool :=
  if ¬c.client ∨ c.closing then (c, false)
  else if c.takes .disconnect then ({ c with closing := true }.hand .disconnect, true)
  else (c, false)

/-! ## Events -/

/-- A message for the receiver of every filter that matches its topic. -/
def route (c : Connection ρ) (m : Message) : List (Delivery ρ) :=
  (c.routes.receivers m.topic).map (⟨·, .message m⟩)

/-- An acknowledgement, which may end a request. -/
def acknowledge (c : Connection ρ) (kind : Kind) (pkid : Nat) (granted : Qos) :
    Connection ρ × List (Delivery ρ) :=
  let (tracker, outcome) := c.tracker.acknowledge kind pkid granted
  ({ c with tracker }, (outcome.map Outcome.delivery).toList)

/-- The broker accepted the connection: the first time that completes it, later it resumes
it. -/
def accepted (c : Connection ρ) (code : ReturnCode) (sessionPresent : Bool) :
    Connection ρ × List (Delivery ρ) :=
  ({ c with online := true, connectedOnce := true },
    if c.connectedOnce then deliver c.lifecycle.resumed (.resumed code sessionPresent)
    else deliver c.lifecycle.completed (.completed 0 code sessionPresent))

/-- A packet from the broker. -/
def incoming (c : Connection ρ) : Packet → Connection ρ × List (Delivery ρ)
  | .connAck code sessionPresent => c.accepted code sessionPresent
  | .publish m => (c, c.route m)
  | .subAck pkid codes => c.acknowledge .subscribe pkid (granted codes)
  | .unsubAck pkid => c.acknowledge .unsubscribe pkid .atMostOnce
  | .pubAck pkid => c.acknowledge .publish pkid .atLeastOnce
  | .pubComp pkid => c.acknowledge .publish pkid .exactlyOnce
  | .pubRec _ | .pubRel _ | .pingReq | .pingResp | .disconnect => (c, [])

/-- A request was sent, which may end it. -/
def sent (c : Connection ρ) (kind : Kind) (pkid : Nat) : Connection ρ × List (Delivery ρ) :=
  let (tracker, outcome) := c.tracker.outgoing kind pkid
  ({ c with tracker }, (outcome.map Outcome.delivery).toList)

/-- A packet the event loop has sent. -/
def outgoing (c : Connection ρ) : Outgoing → Connection ρ × List (Delivery ρ)
  | .publish pkid => c.sent .publish pkid
  | .subscribe pkid => c.sent .subscribe pkid
  | .unsubscribe pkid => c.sent .unsubscribe pkid
  | .pubAck _ | .pubRec _ | .pubRel _ | .pubComp _ | .pingReq | .pingResp | .disconnect
  | .awaitAck _ => (c, [])

/-- Every outstanding request fails. -/
def abandon (c : Connection ρ) (code : ErrorCode) : Connection ρ × List (Delivery ρ) :=
  let (tracker, outcomes) := c.tracker.abandon code
  ({ c with tracker }, outcomes.map Outcome.delivery)

/-- The network failed; only a link that was online tells so. -/
def interrupted (c : Connection ρ) (code : ErrorCode) : Connection ρ × List (Delivery ρ) :=
  ({ c with online := false },
    if c.online then deliver c.lifecycle.interrupted (.interrupted code.code) else [])

/-- The link is closed: what was outstanding fails first. -/
def closed (c : Connection ρ) : Connection ρ × List (Delivery ρ) :=
  let (c, failed) := { c with online := false, client := false }.abandon .connectionShutdown
  (c, failed ++ deliver c.lifecycle.closed .closed)

/-- The first attempt to connect failed: what was outstanding fails first. -/
def connectFailed (c : Connection ρ) (f : Failure) : Connection ρ × List (Delivery ρ) :=
  let (c, failed) := { c with client := false }.abandon f.code
  (c, failed ++ deliver c.lifecycle.completed (.completed f.code.code f.returnCode false))

/-! ## The event loop -/

/-- The link after its event loop ended. -/
def stopped (result : Connection ρ × List (Delivery ρ)) : Connection ρ × List (Delivery ρ) :=
  ({ result.1 with loop := none }, result.2)

/-- The link with its event loop at rest, until time passes. -/
def rested (result : Connection ρ × List (Delivery ρ)) : Connection ρ × List (Delivery ρ) :=
  ({ result.1 with loop := result.1.loop.map fun l => { l with resting := true } }, result.2)

/-- What a poll of the event loop leads to. A disconnect that was sent ends the loop; so does
a failure of a link that is closing or was never accepted. Any other failure interrupts, and
the loop rests before it dials again. -/
def react (c : Connection ρ) : Poll → Connection ρ × List (Delivery ρ)
  | .incoming packet => c.incoming packet
  | .outgoing .disconnect => stopped c.closed
  | .outgoing packet => c.outgoing packet
  | .failed f =>
    if c.closing then stopped c.closed
    else
      let c := c.fail f.code
      if c.connectedOnce then rested (c.interrupted f.code) else stopped (c.connectFailed f)

end Connection

instance : Backend Connection where
  setHandlers := Connection.setHandlers
  connect := Connection.connect
  subscribe := Connection.subscribe
  subscribeMany := Connection.subscribeMany
  unsubscribe := Connection.unsubscribe
  publish := Connection.publish
  disconnect := Connection.disconnect
  lastError := Connection.lastError

end DeviceLink.Link
