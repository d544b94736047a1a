import DeviceLink.Jobs.Payload
import DeviceLink.Log
/-!
# One job of a thing

The handle on one job: the topics it listens to, the callbacks that signals lead to, and its
two requests, which name the job of the handle unless they name another.
-/

namespace DeviceLink.Jobs.Job

/-- A call to the user of a job. -/
inductive Callback
  | subscribeCompleted (ioError : Int)
  | publishCompleted (token : Token) (ioError : Int)
  | describeAccepted (clientToken : Option String) (info : Option Info) (ioError : Int)
  | describeRejected (rejected : Rejected) (ioError : Int)
  | updateAccepted (clientToken : Option String) (info : Option Info) (ioError : Int)
  | updateRejected (rejected : Rejected) (ioError : Int)
  deriving DecidableEq, Repr

/-- The name of a callback. -/
def Callback.name : Callback → String
  | subscribeCompleted .. => "on_subscribe_completed"
  | publishCompleted .. => "on_publish_completed"
  | describeAccepted .. => "on_describe_accepted"
  | describeRejected .. => "on_describe_rejected"
  | updateAccepted .. => "on_update_accepted"
  | updateRejected .. => "on_update_rejected"

/-- The topics a job listens to, in the order it subscribes. -/
def topics : List Topic :=
  [.describeAccepted, .describeRejected, .updateAccepted, .updateRejected]

/-- The callback for an event on one of the topics of a job. -/
def eventCallback (ioError : Int) : Event → Option Callback
  | .describeAccepted answer =>
    some (.describeAccepted (answer.bind (·.clientToken))
      ((answer.bind (·.execution)).map Info.ofExecution) ioError)
  | .describeRejected rejection => some (.describeRejected (Rejection.lend rejection) ioError)
  | .updateAccepted answer =>
    some (.updateAccepted (answer.bind (·.clientToken)) (answer.map Info.ofUpdate) ioError)
  | .updateRejected rejection => some (.updateRejected (Rejection.lend rejection) ioError)
  | .getPendingAccepted _ | .getPendingRejected _ | .executionsChanged _
  | .nextExecutionChanged _ | .startNextAccepted _ | .startNextRejected _ => none

/-- The callback a signal leads to. -/
def callback : Signal → Option Callback
  | .subscribed _ ioError => some (.subscribeCompleted ioError)
  | .published token ioError => some (.publishCompleted token ioError)
  | .event e ioError => eventCallback ioError e

/-- What is noted when a job is about to be built. -/
def startNote (thing job : String) : Log.Line :=
  ⟨.debug, s!"start building internal job [{job}] for [{thing}]"⟩

/-- A request for the description of an execution. -/
def describeRequest (thing job : String) (r : DescribeRequest) : Request :=
  .describe {
    thing := some thing
    job := overlay (some job) r.jobId
    executionNumber := overlay none r.executionNumber
    includeDocument := overlay none r.includeDocument
    clientToken := overlay none r.clientToken }

/-- A request to update an execution. -/
def updateRequest (thing job : String) (r : UpdateRequest) : Request :=
  .update {
    thing := some thing
    job := overlay (some job) r.jobId
    status := overlay none r.status
    expectedVersion := overlay none r.expectedVersion
    executionNumber := overlay none r.executionNumber
    includeState := overlay none r.includeState
    includeDocument := overlay none r.includeDocument
    stepTimeout := overlay none r.stepTimeout
    clientToken := overlay none r.clientToken }

/-- The warning about a request that was refused. -/
def notSent (operation : String) (token : Token) (job : String) : Log.Line :=
  ⟨.warn, s!"{operation} request {token.render} for job [{job}] was not sent"⟩

/-- What a refused request for a description is called. -/
def describeName : String := "describe execution"

/-- What a refused update is called. -/
def updateName : String := "update execution"

end DeviceLink.Jobs.Job
