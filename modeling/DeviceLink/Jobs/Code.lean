import DeviceLink.Coded
/-!
# Jobs codes

The status of a job execution, the reasons for a rejection, and the topics that answer
requests or tell of changes.
-/

namespace DeviceLink.Jobs

/-- The status of a job execution. -/
inductive Status
  | queued
  | inProgress
  | timedOut
  | failed
  | succeeded
  | canceled
  | rejected
  | removed
  deriving DecidableEq, Repr, Inhabited

namespace Status

/-- The name of a status. -/
def name : Status → String
  | queued => "Queued"
  | inProgress => "InProgress"
  | timedOut => "TimedOut"
  | failed => "Failed"
  | succeeded => "Succeeded"
  | canceled => "Canceled"
  | rejected => "Rejected"
  | removed => "Removed"

/-- The name the service knows a status by. -/
def serviceName : Status → String
  | queued => "QUEUED"
  | inProgress => "IN_PROGRESS"
  | timedOut => "TIMED_OUT"
  | failed => "FAILED"
  | succeeded => "SUCCEEDED"
  | canceled => "CANCELED"
  | rejected => "REJECTED"
  | removed => "REMOVED"

/-- Every status, in the order of their numbers. -/
def all : List Status :=
  [queued, inProgress, timedOut, failed, succeeded, canceled, rejected, removed]

instance : Coded Status where
  typeName := "JobStatus"
  all := all
  code s := s.ctorIdx
  name := name

/-- The status the service knows by a name. -/
def ofServiceName? (text : String) : Option Status := all.find? fun s => s.serviceName = text

/-- Whether an execution in this status can no longer change. -/
def isTerminal : Status → Bool
  | succeeded | failed | timedOut | rejected | removed | canceled => true
  | queued | inProgress => false

end Status

/-- Why the service rejected a request. -/
inductive RejectedCode
  | invalidTopic
  | invalidJson
  | invalidRequest
  | invalidStateTransition
  | resourceNotFound
  | versionMismatch
  | internalError
  | requestThrottled
  | terminalStateReached
  deriving DecidableEq, Repr, Inhabited

namespace RejectedCode

/-- The name of a reason. -/
def name : RejectedCode → String
  | invalidTopic => "InvalidTopic"
  | invalidJson => "InvalidJson"
  | invalidRequest => "InvalidRequest"
  | invalidStateTransition => "InvalidStateTransition"
  | resourceNotFound => "ResourceNotFound"
  | versionMismatch => "VersionMismatch"
  | internalError => "InternalError"
  | requestThrottled => "RequestThrottled"
  | terminalStateReached => "TerminalStateReached"

instance : Coded RejectedCode where
  typeName := "RejectedErrorCode"
  all := [invalidTopic, invalidJson, invalidRequest, invalidStateTransition, resourceNotFound,
    versionMismatch, internalError, requestThrottled, terminalStateReached]
  code c := c.ctorIdx
  name := name

end RejectedCode

/-- The topics of answers and events. -/
inductive Topic
  | getPendingAccepted
  | getPendingRejected
  | executionsChanged
  | nextExecutionChanged
  | startNextAccepted
  | startNextRejected
  | describeAccepted
  | describeRejected
  | updateAccepted
  | updateRejected
  deriving DecidableEq, Repr, Inhabited

namespace Topic

/-- The name of a topic, as diagnostics show it. -/
def name : Topic → String
  | getPendingAccepted => "GetPendingJobExecutionsAccepted"
  | getPendingRejected => "GetPendingJobExecutionsRejected"
  | executionsChanged => "JobExecutionsChangedEvents"
  | nextExecutionChanged => "NextJobExecutionChangedEvents"
  | startNextAccepted => "StartNextPendingJobExecutionAccepted"
  | startNextRejected => "StartNextPendingJobExecutionRejected"
  | describeAccepted => "DescribeJobExecutionAccepted"
  | describeRejected => "DescribeJobExecutionRejected"
  | updateAccepted => "UpdateJobExecutionAccepted"
  | updateRejected => "UpdateJobExecutionRejected"

end Topic

end DeviceLink.Jobs
