import DeviceLink.Jobs.Message
import DeviceLink.Mqtt.Code
import DeviceLink.Simulated.Fault
/-!
# The simulated jobs client

Subscriptions and requests are taken down; their completions wait until they are given by
hand, and so are events.
-/

namespace DeviceLink.Simulated

open DeviceLink.Jobs

/-- A subscription to a topic. -/
structure JobsSubscription (ρ : Type) where
  scope : Scope
  topic : Jobs.Topic
  receiver : ρ
  deriving DecidableEq, Repr

/-- The state of a simulated jobs client. -/
structure JobsClient (ρ : Type) where
  subscriptions : List (JobsSubscription ρ) := []
  /-- Subscriptions not yet acknowledged. -/
  pendingSubscriptions : List (Jobs.Topic × ρ) := []
  requests : List (Request × Mqtt.Qos) := []
  /-- Requests not yet sent. -/
  pendingPublishes : List (Token × ρ) := []
  deriving DecidableEq, Repr

namespace JobsClient

variable {ρ : Type}

/-- Subscribing to a topic, and whether it was accepted. -/
def subscribe (c : JobsClient ρ) (faults : Faults) (scope : Scope) (topic : Jobs.Topic)
    (receiver : ρ) : JobsClient ρ × Bool :=
  if faults.isSet (.subscribe topic) || faults.isSet .operationsRejected then (c, false)
  else
    ({ c with
      subscriptions := c.subscriptions ++ [⟨scope, topic, receiver⟩]
      pendingSubscriptions := c.pendingSubscriptions ++ [(topic, receiver)] }, true)

/-- Subscribing to topics in order: the first one refused, if any, ends it. -/
def subscribeAll (c : JobsClient ρ) (faults : Faults) (scope : Scope) (receiver : ρ) :
    List Jobs.Topic → JobsClient ρ × Option Jobs.Topic
  | [] => (c, none)
  | topic :: rest =>
    let (c, accepted) := c.subscribe faults scope topic receiver
    if accepted then c.subscribeAll faults scope receiver rest else (c, some topic)

/-- Sending a request, and whether it was accepted. -/
def publish (c : JobsClient ρ) (faults : Faults) (request : Request) (qos : Mqtt.Qos)
    (token : Token) (receiver : ρ) : JobsClient ρ × Bool :=
  if faults.isSet .operationsRejected then (c, false)
  else
    ({ c with
      requests := c.requests ++ [(request, qos)]
      pendingPublishes := c.pendingPublishes ++ [(token, receiver)] }, true)

/-- The acknowledgement of every pending subscription, in order. -/
def completeSubscriptions (c : JobsClient ρ) (ioError : Int) : JobsClient ρ × List (ρ × Signal) :=
  ({ c with pendingSubscriptions := [] },
    c.pendingSubscriptions.map fun (topic, receiver) => (receiver, .subscribed topic ioError))

/-- The completion of every pending request, in order. -/
def completePublishes (c : JobsClient ρ) (ioError : Int) : JobsClient ρ × List (ρ × Signal) :=
  ({ c with pendingPublishes := [] },
    c.pendingPublishes.map fun (token, receiver) => (receiver, .published token ioError))

/-- An event for every subscription to its topic, in order. -/
def fire (c : JobsClient ρ) (e : Event) (ioError : Int) : List (ρ × Signal) :=
  (c.subscriptions.filter fun s => s.topic = e.topic).map fun s => (s.receiver, .event e ioError)

/-- The scope of the first subscription to a topic. -/
def scope? (c : JobsClient ρ) (topic : Jobs.Topic) : Option Scope :=
  (c.subscriptions.find? fun s => s.topic = topic).map (·.scope)

end JobsClient

end DeviceLink.Simulated
