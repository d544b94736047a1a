import DeviceLink.Form.Basic
import DeviceLink.Jobs.Payload
/-!
# Written forms of jobs

The JSON forms of jobs payloads and requests.
-/

namespace DeviceLink

open Json (Value)
open Json.Value

namespace Json.Value

/-- A field with the status of a job, by the name the service has for it. -/
def statusAt? (v : Value) (key : String) : Option Jobs.Status :=
  (v.textAt? key).bind Jobs.Status.ofServiceName?

end Json.Value

namespace Jobs

/-- The form of a status. -/
def Status.toJson (s : Status) : Value := .string s.serviceName

/-- What a subscription is for. -/
def Scope.ofJson (v : Value) : Scope := { thing := v.textAt? "thing", job := v.textAt? "job" }

/-- A request to start the next execution. -/
def NextRequest.ofJson (v : Value) : NextRequest :=
  { stepTimeout := v.intAt? "step_timeout", clientToken := v.textAt? "client_token" }

/-- A request to describe an execution. -/
def DescribeRequest.ofJson (v : Value) : DescribeRequest :=
  { executionNumber := v.intAt? "execution_number"
    includeDocument := v.boolAt? "include_document"
    jobId := v.textAt? "job_id"
    clientToken := v.textAt? "client_token" }

/-- A request to update an execution. -/
def UpdateRequest.ofJson (v : Value) : UpdateRequest :=
  { executionNumber := v.intAt? "execution_number"
    includeState := v.boolAt? "include_execution_state"
    jobId := v.textAt? "job_id"
    expectedVersion := v.intAt? "expected_version"
    includeDocument := v.boolAt? "include_document"
    status := v.statusAt? "status"
    stepTimeout := v.intAt? "step_timeout"
    clientToken := v.textAt? "client_token" }

/-- An execution as it is lent. -/
def Info.ofJson (v : Value) : Info :=
  { jobId := v.textAt? "job_id"
    document := Buffer.borrowed (v.bytesAt "job_document")
    status := v.statusAt? "status"
    versionNumber := v.intAt? "version_number"
    queuedAt := v.instantAt? "queued_at"
    thingName := v.textAt? "thing_name"
    executionNumber := v.intAt? "execution_number"
    lastUpdatedAt := v.instantAt? "last_updated_at"
    startedAt := v.instantAt? "started_at" }

/-- The form of an execution that the caller keeps. -/
def OwnedInfo.toJson (i : OwnedInfo) : Value :=
  ofFields [
    ("job_id", ofOption .string i.jobId),
    ("job_document", i.document.getD .null),
    ("status", ofOption Status.toJson i.status),
    ("version_number", ofOption .int i.versionNumber),
    ("queued_at", ofOption ofInstant i.queuedAt),
    ("thing_name", ofOption .string i.thingName),
    ("execution_number", ofOption .int i.executionNumber),
    ("last_updated_at", ofOption ofInstant i.lastUpdatedAt),
    ("started_at", ofOption ofInstant i.startedAt)]

/-- An execution in a list. -/
def ListedExecution.ofJson (v : Value) : ListedExecution :=
  { jobId := v.textAt? "job_id"
    versionNumber := v.intAt? "version_number"
    executionNumber := v.intAt? "execution_number"
    startedAt := v.instantAt? "started_at"
    queuedAt := v.instantAt? "queued_at"
    lastUpdatedAt := v.instantAt? "last_updated_at" }

/-- An execution in a list as it is lent. -/
def Summary.ofJson (v : Value) : Summary := ofListed (ListedExecution.ofJson v)

/-- The form of an execution in a list that the caller keeps. -/
def OwnedSummary.toJson (s : OwnedSummary) : Value :=
  ofFields [
    ("job_id", ofOption .string s.jobId),
    ("version_number", ofOption .int s.versionNumber),
    ("execution_number", ofOption .int s.executionNumber),
    ("started_at", ofOption ofInstant s.startedAt),
    ("queued_at", ofOption ofInstant s.queuedAt),
    ("last_updated_at", ofOption ofInstant s.lastUpdatedAt)]

/-- The executions of a list that may be missing. -/
def listedAt? (v : Value) (key : String) : Option (List ListedExecution) :=
  (v.listAt? key).map (·.map ListedExecution.ofJson)

/-- The form of the pending executions that the caller keeps. -/
def OwnedPending.toJson (p : OwnedPending) : Value :=
  ofFields [
    ("queued_jobs", .array (p.queued.map OwnedSummary.toJson)),
    ("progress_jobs", .array (p.inProgress.map OwnedSummary.toJson)),
    ("timestamp", ofOption ofInstant p.timestamp),
    ("client_token", ofOption .string p.clientToken)]

/-- The form of the pending executions, as the caller would keep them. -/
def Pending.toJson (p : Pending) : Value := p.toOwned.toJson

/-- A rejection. -/
def Rejection.ofJson (v : Value) : Rejection :=
  { timestamp := v.instantAt? "timestamp"
    code := (v.textAt? "code").bind Coded.ofName?
    message := v.textAt? "message"
    clientToken := v.textAt? "client_token" }

/-- The form of a rejection that the caller keeps. -/
def OwnedRejected.toJson (r : OwnedRejected) : Value :=
  ofFields [
    ("timestamp", ofOption ofInstant r.timestamp),
    ("code", ofOption ofCode r.code),
    ("message", ofOption .string r.message),
    ("client_token", ofOption .string r.clientToken)]

/-- The form of a rejection, as the caller would keep it. -/
def Rejected.toJson (r : Rejected) : Value := r.toOwned.toJson

/-- The form of a request to the service. -/
def Request.toJson : Request → Value
  | getPending thing clientToken =>
    ofFields [("GetPending", .array [ofOption .string thing, ofOption .string clientToken])]
  | startNext thing stepTimeout clientToken =>
    ofFields [("StartNextPending",
      .array [ofOption .string thing, ofOption .int stepTimeout, ofOption .string clientToken])]
  | describe m =>
    ofFields [("Describe", ofFields [
      ("thing_name", ofOption .string m.thing),
      ("job_id", ofOption .string m.job),
      ("execution_number", ofOption .int m.executionNumber),
      ("include_job_document", ofOption .bool m.includeDocument),
      ("client_token", ofOption .string m.clientToken)])]
  | update m =>
    ofFields [("Update", ofFields [
      ("thing_name", ofOption .string m.thing),
      ("job_id", ofOption .string m.job),
      ("status", ofOption Status.toJson m.status),
      ("expected_version", ofOption .int m.expectedVersion),
      ("execution_number", ofOption .int m.executionNumber),
      ("include_job_execution_state", ofOption .bool m.includeState),
      ("include_job_document", ofOption .bool m.includeDocument),
      ("step_timeout_in_minutes", ofOption .int m.stepTimeout),
      ("client_token", ofOption .string m.clientToken)])]

end Jobs

end DeviceLink
