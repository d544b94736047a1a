import DeviceLink.Buffer.Basic
import DeviceLink.Jobs.Message
import DeviceLink.Json.Reader
import DeviceLink.Json.Writer
import DeviceLink.Presence
/-!
# What crosses to the caller

The payloads of jobs callbacks, the copies a caller can keep, and the requests a caller
makes. `present` lists the optional fields that are there, in the order of declaration.
-/

namespace DeviceLink.Jobs

/-- An execution as lent to the caller. The document is JSON text, empty when absent. -/
structure Info where
  jobId : Option String := none
  document : Buffer := Buffer.empty
  status : Option Status := none
  versionNumber : Option Int := none
  queuedAt : Option Instant := none
  thingName : Option String := none
  executionNumber : Option Int := none
  lastUpdatedAt : Option Instant := none
  startedAt : Option Instant := none
  deriving DecidableEq, Repr, Inhabited

/-- The JSON text of a document, lent; empty when there is none. -/
def lendDocument : Option Json.Value → Buffer
  | some value => Buffer.borrowed (Utf8.encode value.render)
  | none => Buffer.borrowed []

namespace Info

/-- The payload for an execution. -/
def ofExecution (e : Execution) : Info :=
  { jobId := e.jobId
    document := lendDocument e.document
    status := e.status
    versionNumber := e.versionNumber
    queuedAt := e.queuedAt
    thingName := e.thingName
    executionNumber := e.executionNumber
    lastUpdatedAt := e.lastUpdatedAt
    startedAt := e.startedAt }

/-- The payload for an update, which tells the state and the document only. -/
def ofUpdate (u : UpdateAnswer) : Info :=
  { document := lendDocument u.document
    status := u.state.bind (·.status)
    versionNumber := u.state.bind (·.versionNumber) }

/-- The fields that are there. -/
def present (i : Info) : List String :=
  presentNames [
    ("job_id", i.jobId.isSome),
    ("job_document", !i.document.isEmpty),
    ("status", i.status.isSome),
    ("version_number", i.versionNumber.isSome),
    ("queued_at", i.queuedAt.isSome),
    ("thing_name", i.thingName.isSome),
    ("execution_number", i.executionNumber.isSome),
    ("last_updated_at", i.lastUpdatedAt.isSome),
    ("started_at", i.startedAt.isSome)]

end Info

/-- A copy of an execution that the caller keeps, with the document read. -/
structure OwnedInfo where
  jobId : Option String := none
  document : Option Json.Value := none
  status : Option Status := none
  versionNumber : Option Int := none
  queuedAt : Option Instant := none
  thingName : Option String := none
  executionNumber : Option Int := none
  lastUpdatedAt : Option Instant := none
  startedAt : Option Instant := none
  deriving Repr, Inhabited

/-- The copy of a lent execution. A document that is empty or no JSON is left out. -/
def Info.toOwned (i : Info) : OwnedInfo :=
  { jobId := i.jobId
    document := if i.document.isEmpty then none else Json.Value.ofBytes? i.document.bytes
    status := i.status
    versionNumber := i.versionNumber
    queuedAt := i.queuedAt
    thingName := i.thingName
    executionNumber := i.executionNumber
    lastUpdatedAt := i.lastUpdatedAt
    startedAt := i.startedAt }

/-- The fields that are there. -/
def OwnedInfo.present (i : OwnedInfo) : List String :=
  presentNames [
    ("job_id", i.jobId.isSome),
    ("job_document", i.document.isSome),
    ("status", i.status.isSome),
    ("version_number", i.versionNumber.isSome),
    ("queued_at", i.queuedAt.isSome),
    ("thing_name", i.thingName.isSome),
    ("execution_number", i.executionNumber.isSome),
    ("last_updated_at", i.lastUpdatedAt.isSome),
    ("started_at", i.startedAt.isSome)]

/-- An execution in a list, as lent to the caller. -/
structure Summary where
  jobId : Option String := none
  versionNumber : Option Int := none
  executionNumber : Option Int := none
  startedAt : Option Instant := none
  queuedAt : Option Instant := none
  lastUpdatedAt : Option Instant := none
  deriving DecidableEq, Repr, Inhabited

namespace Summary

/-- The payload for an execution in a list. -/
def ofListed (x : ListedExecution) : Summary :=
  { jobId := x.jobId
    versionNumber := x.versionNumber
    executionNumber := x.executionNumber
    startedAt := x.startedAt
    queuedAt := x.queuedAt
    lastUpdatedAt := x.lastUpdatedAt }

/-- The fields that are there. -/
def present (s : Summary) : List String :=
  presentNames [
    ("job_id", s.jobId.isSome),
    ("version_number", s.versionNumber.isSome),
    ("execution_number", s.executionNumber.isSome),
    ("started_at", s.startedAt.isSome),
    ("queued_at", s.queuedAt.isSome),
    ("last_updated_at", s.lastUpdatedAt.isSome)]

end Summary

/-- A copy of an execution in a list that the caller keeps. -/
structure OwnedSummary where
  jobId : Option String := none
  versionNumber : Option Int := none
  executionNumber : Option Int := none
  startedAt : Option Instant := none
  queuedAt : Option Instant := none
  lastUpdatedAt : Option Instant := none
  deriving DecidableEq, Repr, Inhabited

/-- The copy of a lent execution in a list. -/
def Summary.toOwned (s : Summary) : OwnedSummary :=
  { jobId := s.jobId
    versionNumber := s.versionNumber
    executionNumber := s.executionNumber
    startedAt := s.startedAt
    queuedAt := s.queuedAt
    lastUpdatedAt := s.lastUpdatedAt }

/-- The fields that are there. -/
def OwnedSummary.present (s : OwnedSummary) : List String :=
  presentNames [
    ("job_id", s.jobId.isSome),
    ("version_number", s.versionNumber.isSome),
    ("execution_number", s.executionNumber.isSome),
    ("started_at", s.startedAt.isSome),
    ("queued_at", s.queuedAt.isSome),
    ("last_updated_at", s.lastUpdatedAt.isSome)]

/-- The pending executions. Both lists are always there, possibly empty. -/
structure Pending where
  queued : List Summary := []
  inProgress : List Summary := []
  timestamp : Option Instant := none
  clientToken : Option String := none
  deriving DecidableEq, Repr, Inhabited

namespace Pending

/-- The executions of a list as lent; an absent list is empty. -/
def summaries (jobs : Option (List ListedExecution)) : List Summary :=
  (jobs.getD []).map Summary.ofListed

/-- The payload for an answer. -/
def ofAnswer (a : Option PendingAnswer) : Pending :=
  { queued := summaries (a.bind (·.queued))
    inProgress := summaries (a.bind (·.inProgress))
    timestamp := a.bind (·.timestamp)
    clientToken := a.bind (·.clientToken) }

/-- The fields that are there. -/
def present (p : Pending) : List String :=
  presentNames [("timestamp", p.timestamp.isSome), ("client_token", p.clientToken.isSome)]

end Pending

/-- A copy of the pending executions that the caller keeps. -/
structure OwnedPending where
  queued : List OwnedSummary := []
  inProgress : List OwnedSummary := []
  timestamp : Option Instant := none
  clientToken : Option String := none
  deriving DecidableEq, Repr, Inhabited

/-- The copy of the lent pending executions. -/
def Pending.toOwned (p : Pending) : OwnedPending :=
  { queued := p.queued.map Summary.toOwned
    inProgress := p.inProgress.map Summary.toOwned
    timestamp := p.timestamp
    clientToken := p.clientToken }

/-- A rejection as lent to the caller. -/
structure Rejected where
  timestamp : Option Instant := none
  code : Option RejectedCode := none
  message : Option String := none
  clientToken : Option String := none
  deriving DecidableEq, Repr, Inhabited

/-- The payload for a rejection; a missing one has no field. -/
def Rejection.lend : Option Rejection → Rejected
  | none => {}
  | some r =>
    { timestamp := r.timestamp
      code := r.code
      message := r.message
      clientToken := r.clientToken }

/-- The fields that are there. -/
def Rejected.present (r : Rejected) : List String :=
  presentNames [
    ("timestamp", r.timestamp.isSome),
    ("code", r.code.isSome),
    ("message", r.message.isSome),
    ("client_token", r.clientToken.isSome)]

/-- A copy of a rejection that the caller keeps. -/
structure OwnedRejected where
  timestamp : Option Instant := none
  code : Option RejectedCode := none
  message : Option String := none
  clientToken : Option String := none
  deriving DecidableEq, Repr, Inhabited

/-- The copy of a lent rejection. -/
def Rejected.toOwned (r : Rejected) : OwnedRejected :=
  { timestamp := r.timestamp
    code := r.code
    message := r.message
    clientToken := r.clientToken }

/-- The fields that are there. -/
def OwnedRejected.present (r : OwnedRejected) : List String :=
  presentNames [
    ("timestamp", r.timestamp.isSome),
    ("code", r.code.isSome),
    ("message", r.message.isSome),
    ("client_token", r.clientToken.isSome)]

/-- A caller's request to start the next execution. -/
structure NextRequest where
  stepTimeout : Option Int := none
  clientToken : Option String := none
  deriving DecidableEq, Repr, Inhabited

/-- The fields that are there. -/
def NextRequest.present (r : NextRequest) : List String :=
  presentNames [("step_timeout", r.stepTimeout.isSome), ("client_token", r.clientToken.isSome)]

/-- A caller's request to describe an execution. -/
structure DescribeRequest where
  executionNumber : Option Int := none
  includeDocument : Option Bool := none
  /-- Another job than the handle's own. -/
  jobId : Option String := none
  clientToken : Option String := none
  deriving DecidableEq, Repr, Inhabited

/-- The fields that are there. -/
def DescribeRequest.present (r : DescribeRequest) : List String :=
  presentNames [
    ("execution_number", r.executionNumber.isSome),
    ("include_document", r.includeDocument.isSome),
    ("job_id", r.jobId.isSome),
    ("client_token", r.clientToken.isSome)]

/-- A caller's request to update an execution. -/
structure UpdateRequest where
  executionNumber : Option Int := none
  includeState : Option Bool := none
  /-- Another job than the handle's own. -/
  jobId : Option String := none
  expectedVersion : Option Int := none
  includeDocument : Option Bool := none
  status : Option Status := none
  stepTimeout : Option Int := none
  clientToken : Option String := none
  deriving DecidableEq, Repr, Inhabited

/-- The fields that are there. -/
def UpdateRequest.present (r : UpdateRequest) : List String :=
  presentNames [
    ("execution_number", r.executionNumber.isSome),
    ("include_execution_state", r.includeState.isSome),
    ("job_id", r.jobId.isSome),
    ("expected_version", r.expectedVersion.isSome),
    ("include_document", r.includeDocument.isSome),
    ("status", r.status.isSome),
    ("step_timeout", r.stepTimeout.isSome),
    ("client_token", r.clientToken.isSome)]

end DeviceLink.Jobs
