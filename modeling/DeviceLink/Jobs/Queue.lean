import DeviceLink.Jobs.Payload
import DeviceLink.Log
import DeviceLink.Mqtt.Code
/-!
# The queue of a thing

The handle on the pending jobs of one thing: the topics it listens to, the callbacks that
signals lead to, and its two requests.
-/

namespace DeviceLink.Jobs.Queue

/-- A call to the user of a queue. -/
inductive Callback
  | subscribeCompleted (ioError : Int)
  | publishCompleted (token : Token) (ioError : Int)
  | getPendingAccepted (pending : Pending) (ioError : Int)
  | getPendingRejected (rejected : Rejected) (ioError : Int)
  | startNextAccepted (clientToken : Option String) (info : Option Info) (ioError : Int)
  | startNextRejected (rejected : Rejected) (ioError : Int)
  | executionsChanged (timestamp : Option Instant) (ioError : Int)
  | nextExecutionChanged (info : Option Info) (timestamp : Option Instant) (ioError : Int)
  deriving DecidableEq, Repr

/-- The name of a callback. -/
def Callback.name : Callback → String
  | subscribeCompleted .. => "on_subscribe_completed"
  | publishCompleted .. => "on_publish_completed"
  | getPendingAccepted .. => "on_get_pending_accepted"
  | getPendingRejected .. => "on_get_pending_rejected"
  | startNextAccepted .. => "on_start_next_accepted"
  | startNextRejected .. => "on_start_next_rejected"
  | executionsChanged .. => "on_job_executions_changed"
  | nextExecutionChanged .. => "on_next_job_execution_changed"

/-- The topics a queue listens to, in the order it subscribes. -/
def topics : List Topic :=
  [.getPendingAccepted, .getPendingRejected, .executionsChanged, .nextExecutionChanged,
    .startNextAccepted, .startNextRejected]

/-- The callback for an event on one of the topics of a queue. -/
def eventCallback (ioError : Int) : Event → Option Callback
  | .getPendingAccepted answer => some (.getPendingAccepted (Pending.ofAnswer answer) ioError)
  | .getPendingRejected rejection =>
    some (.getPendingRejected (Rejection.lend rejection) ioError)
  | .executionsChanged change =>
    some (.executionsChanged (change.bind (·.timestamp)) ioError)
  | .nextExecutionChanged change =>
    some (.nextExecutionChanged ((change.bind (·.execution)).map Info.ofExecution)
      (change.bind (·.timestamp)) ioError)
  | .startNextAccepted answer =>
    some (.startNextAccepted (answer.bind (·.clientToken))
      ((answer.bind (·.execution)).map Info.ofExecution) ioError)
  | .startNextRejected rejection =>
    some (.startNextRejected (Rejection.lend rejection) ioError)
  | .describeAccepted _ | .describeRejected _ | .updateAccepted _ | .updateRejected _ => none

/-- The callback a signal leads to. -/
def callback : Signal → Option Callback
  | .subscribed _ ioError => some (.subscribeCompleted ioError)
  | .published token ioError => some (.publishCompleted token ioError)
  | .event e ioError => eventCallback ioError e

/-- What is noted when a queue is about to be built. -/
def startNote (thing : String) : Log.Line :=
  ⟨.debug, s!"start building internal jobs client for [{thing}]"⟩

/-- A request for the pending executions. -/
def getPendingRequest (thing : String) : Request := .getPending (some thing) none

/-- A request to start the next execution: the thing and the fields that are there. -/
def startNextRequest (thing : String) (r : NextRequest) : Request :=
  .startNext (some thing) (overlay none r.stepTimeout) (overlay none r.clientToken)

/-- The warning about a request that was refused. -/
def notSent (operation : String) (token : Token) : Log.Line :=
  ⟨.warn, s!"{operation} request {token.render} was not sent"⟩

/-- What a refused request for the pending executions is called. -/
def getPendingName : String := "get pending executions"

/-- What a refused request to start the next execution is called. -/
def startNextName : String := "start next pending execution"

end DeviceLink.Jobs.Queue
