import DeviceLink.Bench.Step
import DeviceLink.Form.Jobs
import DeviceLink.Form.Mqtt
/-!
# Scripts

Steps on the bench as JSON objects: `do` names the step, other fields say on what and with
what. A part that makes no sense refuses the step when it is issued, since a missing handle
comes first.
-/

namespace DeviceLink

open Json (Value)
open Bench (Refusal)

namespace Jobs

/-- The topics by the names that scripts have for them. -/
def Topic.byKind : List (String × Topic) :=
  [("GetPendingAccepted", .getPendingAccepted), ("GetPendingRejected", .getPendingRejected),
    ("JobExecutionsChanged", .executionsChanged),
    ("NextJobExecutionChanged", .nextExecutionChanged),
    ("StartNextAccepted", .startNextAccepted), ("StartNextRejected", .startNextRejected),
    ("DescribeAccepted", .describeAccepted), ("DescribeRejected", .describeRejected),
    ("UpdateAccepted", .updateAccepted), ("UpdateRejected", .updateRejected)]

/-- The topic of a kind. -/
def Topic.ofKind (kind : String) : Except Refusal Topic :=
  match Topic.byKind.lookup kind with
  | some topic => .ok topic
  | none => .error .badKind

/-- The document that a text field holds. -/
def documentOf (v : Value) : Except Refusal (Option Value) :=
  match v.textAt? "document" with
  | none => .ok none
  | some text =>
    match Value.parse? text with
    | some document => .ok (some document)
    | none => .error .badDocument

/-- A part of a response that may be missing. -/
def optional {α : Type} (read : Value → Except Refusal α) :
    Option Value → Except Refusal (Option α)
  | none => .ok none
  | some v => (read v).map some

/-- One execution of a job. -/
def Execution.ofJson (v : Value) : Except Refusal Execution := do
  let document ← documentOf v
  pure {
    jobId := v.textAt? "job_id"
    thingName := v.textAt? "thing_name"
    document
    status := v.statusAt? "status"
    queuedAt := v.instantAt? "queued_at"
    startedAt := v.instantAt? "started_at"
    lastUpdatedAt := v.instantAt? "last_updated_at"
    versionNumber := v.intAt? "version_number"
    executionNumber := v.intAt? "execution_number" }

/-- The answer to a request to start or describe an execution. -/
def ExecutionAnswer.ofJson (v : Value) : Except Refusal ExecutionAnswer := do
  let execution ← optional Execution.ofJson (v.field? "execution")
  pure { execution, timestamp := v.instantAt? "timestamp", clientToken := v.textAt? "client_token" }

/-- The state of an execution after an update. -/
def ExecutionState.ofJson (v : Value) : ExecutionState :=
  { status := v.statusAt? "status", versionNumber := v.intAt? "version_number" }

/-- The answer to a request to update an execution. -/
def UpdateAnswer.ofJson (v : Value) : Except Refusal UpdateAnswer := do
  let document ← documentOf v
  pure {
    state := (v.field? "execution_state").map ExecutionState.ofJson
    document
    timestamp := v.instantAt? "timestamp"
    clientToken := v.textAt? "client_token" }

/-- The executions of one status. -/
def statusList (entry : String × Value) : Except Refusal (Status × List ListedExecution) :=
  match Status.ofServiceName? entry.1 with
  | some status => .ok (status, entry.2.elements.map ListedExecution.ofJson)
  | none => .error .badStatus

/-- The executions by their status. -/
def statusLists : Value → Except Refusal (List (Status × List ListedExecution))
  | .object fields => fields.mapM statusList
  | _ => .ok []

/-- The lists of executions have changed. -/
def ExecutionsChange.ofJson (v : Value) : Except Refusal ExecutionsChange := do
  let jobs ← optional statusLists (v.field? "jobs")
  pure { jobs, timestamp := v.instantAt? "timestamp" }

/-- The execution that comes next has changed. -/
def NextChange.ofJson (v : Value) : Except Refusal NextChange := do
  let execution ← optional Execution.ofJson (v.field? "execution")
  pure { execution, timestamp := v.instantAt? "timestamp" }

/-- The answer to a request for the pending executions. -/
def PendingAnswer.ofJson (v : Value) : PendingAnswer :=
  { queued := listedAt? v "queued_jobs"
    inProgress := listedAt? v "in_progress_jobs"
    timestamp := v.instantAt? "timestamp"
    clientToken := v.textAt? "client_token" }

/-- What arrives: its kind, and the response of that kind or none. -/
def Event.ofJson (v : Value) : Except Refusal Event := do
  let response := v.field? "response"
  let rejection := response.map fun r => Rejection.ofJson (r.part "rejected")
  match ← Topic.ofKind (v.textAt "kind") with
  | .getPendingAccepted => pure (.getPendingAccepted (response.map PendingAnswer.ofJson))
  | .getPendingRejected => pure (.getPendingRejected rejection)
  | .executionsChanged =>
    pure (.executionsChanged (← optional ExecutionsChange.ofJson response))
  | .nextExecutionChanged =>
    pure (.nextExecutionChanged (← optional NextChange.ofJson response))
  | .startNextAccepted =>
    pure (.startNextAccepted (← optional ExecutionAnswer.ofJson response))
  | .startNextRejected => pure (.startNextRejected rejection)
  | .describeAccepted =>
    pure (.describeAccepted (← optional ExecutionAnswer.ofJson response))
  | .describeRejected => pure (.describeRejected rejection)
  | .updateAccepted => pure (.updateAccepted (← optional UpdateAnswer.ofJson response))
  | .updateRejected => pure (.updateRejected rejection)

end Jobs

namespace Tunnel

/-- A tunnel was opened for the device. -/
def Opened.ofJson (v : Value) : Opened :=
  { region := v.textAt? "region"
    clientMode := v.textAt? "client_mode"
    services := (v.listAt? "services").map (·.filterMap Value.asText?)
    accessToken := v.textAt? "client_access_token" }

/-- The mode with a name; the destination where none is given. -/
def Mode.ofName (name : Option String) : Except Refusal Mode :=
  match name with
  | none | some "destination" | some "default" => .ok .destination
  | some "source" => .ok .source
  | some _ => .error .badMode

/-- The draft of a tunnel with the bench's own handlers in the slots that are named. -/
def Draft.ofJson (v : Value) : Except Refusal (Draft Bench.Receiver) := do
  let mode ← Mode.ofName (v.textAt? "mode")
  let draft : Draft Bench.Receiver :=
    { endpoint := v.textAt "endpoint"
      accessToken := v.textAt "access_token"
      mode
      clientToken := v.textAt? "client_token" }
  pure (draft.registerAll ((v.textsAt "handlers").filterMap Slot.ofName?) .raw)

/-- An event of a tunnel. -/
def Event.ofJson (v : Value) : Except Refusal Event :=
  let code := v.intAt "error_code"
  let connectionId := v.natAt "connection_id"
  let id (i : Nat) : Option (List UInt8) :=
    match (v.listAt "ids")[i]? with
    | none | some .null => none
    | some bytes => some bytes.bytes
  let payload := v.bytesAt? "payload"
  match Slot.ofName? (v.textAt "kind") with
  | none => .error .badKind
  | some .connectionSuccess => .ok (.connectionSuccess (id 0) (id 1) (id 2))
  | some .connectionFailure => .ok (.connectionFailure code)
  | some .connectionShutdown => .ok .connectionShutdown
  | some .connectionReset => .ok (.connectionReset code connectionId (id 0))
  | some .sessionReset => .ok .sessionReset
  | some .sendMessageComplete => .ok (.sendMessageComplete code (payload.getD []))
  | some .messageReceived => .ok (.messageReceived connectionId payload (id 0))
  | some .streamStarted => .ok (.streamStarted code connectionId (id 0))
  | some .streamStopped => .ok (.streamStopped (id 0))

end Tunnel

/-- What follows a colon, if the text before it is the one given. -/
def afterColon? (lead text : String) : Option String :=
  let cs := text.toList
  let lead := lead.toList ++ [':']
  if cs.take lead.length = lead then some (String.ofList (cs.drop lead.length)) else none

/-- The fault with a name; that of a subscription names its kind after a colon. -/
def Simulated.Fault.ofName (name : String) : Except Refusal Simulated.Fault :=
  match name with
  | "NewConnection" => .ok .newConnection
  | "Connect" => .ok .connect
  | "JobsClient" => .ok .jobsClient
  | "TunnelingClient" => .ok .tunnelingClient
  | "NotifySubscribe" => .ok .notifySubscribe
  | "TunnelBuild" => .ok .tunnelBuild
  | "OperationsRejected" => .ok .operationsRejected
  | _ =>
    match afterColon? "Subscribe" name with
    | some kind => (Jobs.Topic.ofKind kind).map .subscribe
    | none => .error .badFault

namespace Bench

/-- What a panic carries: a message of the bench's own, the one given, or no text. -/
def Panic.ofJson (v : Value) : Panic :=
  match v.textAt? "payload" with
  | none => .text "static message"
  | some "string" => .text (v.textAt "message")
  | some _ => .other

/-- Where the user of a new handle sees a refusal. -/
def Reporting.ofJson (v : Value) : Reporting := if v.boolAt "internal" then .logged else .answered

/-- A step of a script. -/
def Step.ofJson? (v : Value) : Option Step :=
  let h := v.textAt "h"
  let m := v.textAt "m"
  let topic := v.textAt "topic"
  let thing := v.textAt "thing"
  let qos := v.qosAt
  let token : Token := ⟨UInt64.ofNat (v.natAt "token")⟩
  let request := v.part "request"
  let code := v.intAt "error_code"
  let returnCode := v.intAt "return_code"
  let sessionPresent := v.boolAt "session_present"
  let ioError := v.intAt "io_error"
  let reporting := Reporting.ofJson v
  match v.textAt "do" with
  | "inject" => some (.inject (Simulated.Fault.ofName (v.textAt "fault")))
  | "clear" => some (.clear (Simulated.Fault.ofName (v.textAt "fault")))
  | "clear_faults" => some .clearFaults
  | "panic_on" => some (.panicOn (v.textsAt "names") (Panic.ofJson v))
  | "counts" => some .counts
  | "drop" => some (.drop h)
  | "wraps" => some (.wraps h)
  | "mqtt_new" =>
    some (.newClient (Mqtt.ClientConfig.ofJson (v.part "config")) reporting (v.boolAt "session"))
  | "subscribe" => some (.subscribe h topic qos)
  | "subscribe_multiple" => some (.subscribeMany h (v.textsAt "topics") qos)
  | "unsubscribe" => some (.unsubscribe h topic)
  | "publish" =>
    some (.publish h topic qos (v.boolAt "retain") (v.bytesAt "payload")
      ((v.natAt? "times").getD 1))
  | "disconnect" => some (.disconnect h)
  | "connection" => some (.connection h)
  | "is_subscribed" => some (.isSubscribed h (v.textAt "filter"))
  | "fire_completed" => some (.fireCompleted h code returnCode sessionPresent)
  | "fire_closed" => some (.fireClosed h)
  | "fire_interrupted" => some (.fireInterrupted h code)
  | "fire_resumed" => some (.fireResumed h returnCode sessionPresent)
  | "deliver" =>
    some (.receive h topic (v.bytesAt "payload") (v.boolAt "dup") qos (v.boolAt "retain"))
  | "ack" => some (.ack h (v.natAt "packet_id") code)
  | "ack_all" => some (.ackAll h code)
  | "raw_connection" =>
    some (.newRawConnection (Mqtt.Draft.callsOfJson v "config") (Mqtt.Lifecycle.ofJson v .raw))
  | "raw_connect" => some (.connect h (Mqtt.ConnectOptions.ofJson (v.part "options")))
  | "session_status" => some (.sessionStatus h)
  | "drop_events" => some (.dropEvents h)
  | "handle_events" => some (.handleEvents h (v.textsAt "topics") qos)
  | "jobs_new" => some (.newQueue m thing qos reporting)
  | "job_new" => some (.newJob m thing (v.textAt "job") qos reporting)
  | "get_pending" => some (.getPending h token qos)
  | "start_next" => some (.startNext h token qos (Jobs.NextRequest.ofJson request))
  | "describe" => some (.describe h token qos (Jobs.DescribeRequest.ofJson request))
  | "update" => some (.update h token qos (Jobs.UpdateRequest.ofJson request))
  | "jobs_state" => some (.jobsClient h)
  | "complete_subscriptions" => some (.completeSubscriptions h ioError)
  | "complete_publishes" => some (.completePublishes h ioError)
  | "fire" => some (.fire h (Jobs.Event.ofJson v) ioError)
  | "raw_jobs" => some (.newRawJobs m)
  | "raw_jobs_subscribe" =>
    some (.subscribeRawJobs h (Jobs.Topic.ofKind (v.textAt "kind")) qos (Jobs.Scope.ofJson v))
  | "tunnel_client_new" => some (.newListener m thing qos reporting)
  | "tunnel_client_state" => some (.listener h)
  | "complete_subscription" => some (.completeListeners h code)
  | "fire_notify" =>
    some (.fireOpened h ((v.field? "response").map Tunnel.Opened.ofJson) ioError)
  | "tunnel_new" =>
    let mode := v.textAt? "mode"
    some (.newTunnel (v.textAt "endpoint") (v.textAt "access_token") (Tunnel.Mode.ofName mode)
      (if mode.isNone then .logged else .answered))
  | "raw_tunnel" => some (.newRawTunnel (Tunnel.Draft.ofJson v))
  | "start" => some (.start h)
  | "stop" => some (.stop h)
  | "send" => some (.send h ⟨v.natAt "connection_id", v.bytesAt "payload"⟩)
  | "tunnel_state" => some (.tunnel h)
  | "fire_tunnel" => some (.fireTunnel h (Tunnel.Event.ofJson v))
  | _ => none

end Bench

end DeviceLink
