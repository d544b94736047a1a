import DeviceLink.Jobs.Code
import DeviceLink.Json.Value
import DeviceLink.Time.Instant
import DeviceLink.Token
/-!
# What the jobs service says and is told

Answers, events and requests. The service may leave out any field, so each is optional.
-/

namespace DeviceLink.Jobs

/-- A rejection of a request. -/
structure Rejection where
  timestamp : Option Instant := none
  code : Option RejectedCode := none
  message : Option String := none
  clientToken : Option String := none
  deriving DecidableEq, Repr, Inhabited

/-- One execution of a job. -/
structure Execution where
  jobId : Option String := none
  thingName : Option String := none
  document : Option Json.Value := none
  status : Option Status := none
  queuedAt : Option Instant := none
  startedAt : Option Instant := none
  lastUpdatedAt : Option Instant := none
  versionNumber : Option Int := none
  executionNumber : Option Int := none
  deriving Repr, Inhabited

/-- The state of an execution after an update. -/
structure ExecutionState where
  status : Option Status := none
  versionNumber : Option Int := none
  deriving DecidableEq, Repr, Inhabited

/-- An execution in a list. -/
structure ListedExecution where
  jobId : Option String := none
  versionNumber : Option Int := none
  executionNumber : Option Int := none
  startedAt : Option Instant := none
  queuedAt : Option Instant := none
  lastUpdatedAt : Option Instant := none
  deriving DecidableEq, Repr, Inhabited

/-- The answer to a request for the pending executions. -/
structure PendingAnswer where
  inProgress : Option (List ListedExecution) := none
  queued : Option (List ListedExecution) := none
  timestamp : Option Instant := none
  clientToken : Option String := none
  deriving DecidableEq, Repr, Inhabited

/-- The answer to a request to start or describe an execution. -/
structure ExecutionAnswer where
  execution : Option Execution := none
  timestamp : Option Instant := none
  clientToken : Option String := none
  deriving Repr, Inhabited

/-- The answer to a request to update an execution. -/
structure UpdateAnswer where
  state : Option ExecutionState := none
  document : Option Json.Value := none
  timestamp : Option Instant := none
  clientToken : Option String := none
  deriving Repr, Inhabited

/-- The lists of executions have changed. -/
structure ExecutionsChange where
  jobs : Option (List (Status × List ListedExecution)) := none
  timestamp : Option Instant := none
  deriving DecidableEq, Repr, Inhabited

/-- The execution that comes next has changed. -/
structure NextChange where
  execution : Option Execution := none
  timestamp : Option Instant := none
  deriving Repr, Inhabited

/-- What arrives on a topic; nothing when the library could not make sense of it. -/
inductive Event
  | getPendingAccepted (answer : Option PendingAnswer)
  | getPendingRejected (rejection : Option Rejection)
  | executionsChanged (change : Option ExecutionsChange)
  | nextExecutionChanged (change : Option NextChange)
  | startNextAccepted (answer : Option ExecutionAnswer)
  | startNextRejected (rejection : Option Rejection)
  | describeAccepted (answer : Option ExecutionAnswer)
  | describeRejected (rejection : Option Rejection)
  | updateAccepted (answer : Option UpdateAnswer)
  | updateRejected (rejection : Option Rejection)
  deriving Repr, Inhabited

/-- The topic of an event. -/
def Event.topic : Event → Topic
  | getPendingAccepted _ => .getPendingAccepted
  | getPendingRejected _ => .getPendingRejected
  | executionsChanged _ => .executionsChanged
  | nextExecutionChanged _ => .nextExecutionChanged
  | startNextAccepted _ => .startNextAccepted
  | startNextRejected _ => .startNextRejected
  | describeAccepted _ => .describeAccepted
  | describeRejected _ => .describeRejected
  | updateAccepted _ => .updateAccepted
  | updateRejected _ => .updateRejected

/-- What a subscription is for. The job matters for the topics of one execution only. -/
structure Scope where
  thing : Option String := none
  job : Option String := none
  deriving DecidableEq, Repr, Inhabited

/-- A request for the description of an execution. -/
structure DescribeMessage where
  thing : Option String := none
  job : Option String := none
  executionNumber : Option Int := none
  includeDocument : Option Bool := none
  clientToken : Option String := none
  deriving DecidableEq, Repr, Inhabited

/-- A request to update an execution. -/
structure UpdateMessage where
  thing : Option String := none
  job : Option String := none
  status : Option Status := none
  expectedVersion : Option Int := none
  executionNumber : Option Int := none
  includeState : Option Bool := none
  includeDocument : Option Bool := none
  stepTimeout : Option Int := none
  clientToken : Option String := none
  deriving DecidableEq, Repr, Inhabited

/-- A request to the service. -/
inductive Request
  | getPending (thing : Option String) (clientToken : Option String)
  | startNext (thing : Option String) (stepTimeout : Option Int) (clientToken : Option String)
  | describe (message : DescribeMessage)
  | update (message : UpdateMessage)
  deriving DecidableEq, Repr, Inhabited

/-- What a jobs connection tells the receiver of a handler: a subscription was
acknowledged, a request was sent, or something arrived. -/
inductive Signal
  | subscribed (topic : Topic) (ioError : Int)
  | published (token : Token) (ioError : Int)
  | event (e : Event) (ioError : Int)
  deriving Repr

end DeviceLink.Jobs
