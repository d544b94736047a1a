import DeviceLink.Bench.Script
/-!
# Transcripts

The answers of the bench as JSON, and the run of a whole script.
-/

namespace DeviceLink

open Json (Value)
open Json.Value

/-- The form of a trace of the agent. -/
def Agent.Trace.toJson (t : Agent.Trace) : Value :=
  .array [.string t.level.name, ofFields t.values]

/-- The form of an event of a session. -/
def Agent.Event.toJson : Agent.Event → Value
  | connected sessionPresent => .array [.string "Connected", .bool sessionPresent]
  | connectFailed code returnCode =>
    .array [.string "ConnectFailed", .int code, ofCode returnCode]
  | interrupted code => .array [.string "Interrupted", .int code]
  | resumed returnCode sessionPresent =>
    .array [.string "Resumed", ofCode returnCode, .bool sessionPresent]
  | closed => .array [.string "Closed"]
  | message topic payload qos retain =>
    .array [.string "Message", .string topic, ofBytes payload, ofCode qos, .bool retain]
  | subAck id topic qos code =>
    .array [.string "SubAck", .int id, .string topic, ofCode qos, .int code]
  | published id code => .array [.string "Published", .int id, .int code]
  | unsubscribed id code => .array [.string "Unsubscribed", .int id, .int code]

namespace Simulated

/-- The form of a connection of the simulated library. -/
def Connection.toJson (c : Connection Bench.Receiver) : Value :=
  let published (p : Published) : Value :=
    .array [.int p.id, .string p.topic, ofCode p.qos, .bool p.retain, ofBytes p.payload]
  ofFields [
    ("config", c.config.toJson),
    ("options", ofOption Mqtt.ConnectOptions.toJson c.options),
    ("pending", .array (c.pendingIds.map fun id => .int (Int.ofNat id))),
    ("published", .array (c.published.reverse.map published)),
    ("subscriptions", ofTexts c.filters),
    ("shut_down", .bool c.shutDown),
    ("last_error", .int c.lastError)]

/-- The form of a jobs client of the simulated library. -/
def JobsClient.toJson (c : JobsClient Bench.Receiver) : Value :=
  let subscription (s : JobsSubscription Bench.Receiver) : Value :=
    let scope := (c.scope? s.topic).getD {}
    .array [.string s.topic.name, ofOption .string scope.thing, ofOption .string scope.job]
  ofFields [
    ("subscriptions", .array (c.subscriptions.map subscription)),
    ("requests", .array (c.requests.map fun r => r.1.toJson)),
    ("last", ofOption (fun r => .array [Jobs.Request.toJson r.1, ofCode r.2])
      c.requests.getLast?)]

/-- The form of a tunneling client of the simulated library. -/
def TunnelingClient.toJson (c : TunnelingClient Bench.Receiver) : Value :=
  .array (c.requests.map fun r => .array [.string r.1, ofCode r.2])

/-- The form of a tunnel of the simulated library. -/
def Tunnel.toJson (t : Tunnel Bench.Receiver) : Value :=
  ofFields [
    ("endpoint", .string t.draft.endpoint),
    ("access_token", .string t.draft.accessToken),
    ("mode", .string t.draft.mode.name),
    ("client_token", ofOption .string t.draft.clientToken),
    ("handlers", .int t.draft.slots.length),
    ("started", .bool t.started),
    ("sent", .array (t.sent.map fun m => .array [.int m.connectionId, ofBytes m.payload]))]

end Simulated

namespace Bench

/-- The name of a refusal. -/
def Refusal.name : Refusal → String
  | noHandle => "NoHandle"
  | dropped => "Dropped"
  | gone => "Gone"
  | rawHandle => "RawHandle"
  | wrongHandle => "WrongHandle"
  | noSession => "NoSession"
  | badFault => "BadFault"
  | badKind => "BadKind"
  | badMode => "BadMode"
  | badDocument => "BadDocument"
  | badStatus => "BadStatus"

/-- The form of the numbers of objects. -/
def Counts.toJson (c : Counts) : Value :=
  ofFields [
    ("created", .int c.created),
    ("connections", .int c.connections),
    ("jobs_clients", .int c.jobsClients),
    ("latest", .array (c.present.map .bool))]

/-- The form of an answer. -/
def Answer.toJson : Answer → Value
  | nothing => .null
  | yes b => .bool b
  | number n => .int n
  | text s => .string s
  | named handle subject => ofTexts [handle, subject]
  | refused r => ofRefusal r.name
  | unknownCode e => e.toJson
  | clientError e => e.toJson
  | libraryError e => e.toJson
  | counts c => c.toJson
  | connection c => c.toJson
  | jobsClient c => c.toJson
  | listener c => c.toJson
  | tunnel t => t.toJson
  | drafted handle draft => .array [ofOption .string handle, .string draft]
  | handled traces => .array (traces.map fun ts => .array (ts.map Agent.Trace.toJson))

/-- The form of an execution that is lent, as the caller would keep it. -/
def infoJson (i : Option Jobs.Info) : Value := ofOption (fun i => (Jobs.Info.toOwned i).toJson) i

/-- The form of a token. -/
def tokenJson (t : Token) : Value := .int t.value.toNat

/-- The form of a buffer's bytes. -/
def bufferJson (b : Buffer) : Value := ofBytes b.bytes

/-- The name of a callback and what it is called with. -/
def Callback.toJson : Callback → Value
  | mqtt (.completed code returnCode sessionPresent) =>
    .array [.string "Completed", .int code, ofCode returnCode, .bool sessionPresent]
  | mqtt .closed => .array [.string "Closed"]
  | mqtt (.interrupted code) => .array [.string "Interrupted", .int code]
  | mqtt (.resumed returnCode sessionPresent) =>
    .array [.string "Resumed", ofCode returnCode, .bool sessionPresent]
  | mqtt (.message topic payload dup qos retain) =>
    .array [.string "Message", .string topic, bufferJson payload, .bool dup, ofCode qos,
      .bool retain]
  | mqtt (.subAck id topic qos code) =>
    .array [.string "SubAck", .int id, .string topic, ofCode qos, .int code]
  | mqtt (.published id code) => .array [.string "Published", .int id, .int code]
  | mqtt (.unsubscribed id code) => .array [.string "Unsubscribed", .int id, .int code]
  | queue (.subscribeCompleted io) => .array [.string "JobsSubscribed", .int io]
  | queue (.publishCompleted token io) =>
    .array [.string "JobsPublished", tokenJson token, .int io]
  | queue (.getPendingAccepted pending io) =>
    .array [.string "GetPendingAccepted", pending.toJson, .int io]
  | queue (.getPendingRejected rejected io) =>
    .array [.string "GetPendingRejected", rejected.toJson, .int io]
  | queue (.startNextAccepted clientToken info io) =>
    .array [.string "StartNextAccepted", ofOption .string clientToken, infoJson info, .int io]
  | queue (.startNextRejected rejected io) =>
    .array [.string "StartNextRejected", rejected.toJson, .int io]
  | queue (.executionsChanged timestamp io) =>
    .array [.string "JobExecutionsChanged", ofOption ofInstant timestamp, .int io]
  | queue (.nextExecutionChanged info timestamp io) =>
    .array [.string "NextJobExecutionChanged", infoJson info, ofOption ofInstant timestamp,
      .int io]
  | job (.subscribeCompleted io) => .array [.string "JobSubscribed", .int io]
  | job (.publishCompleted token io) => .array [.string "JobPublished", tokenJson token, .int io]
  | job (.describeAccepted clientToken info io) =>
    .array [.string "DescribeAccepted", ofOption .string clientToken, infoJson info, .int io]
  | job (.describeRejected rejected io) =>
    .array [.string "DescribeRejected", rejected.toJson, .int io]
  | job (.updateAccepted clientToken info io) =>
    .array [.string "UpdateAccepted", ofOption .string clientToken, infoJson info, .int io]
  | job (.updateRejected rejected io) =>
    .array [.string "UpdateRejected", rejected.toJson, .int io]
  | listener (.subscribeComplete code) => .array [.string "NotifySubscribed", .int code]
  | listener (.notify n) =>
    .array [.string "TunnelNotify", .string n.accessToken, .string n.region,
      .string n.clientMode, ofTexts n.services]
  | tunnel (.connectionSuccess id1 id2 id3) =>
    .array [.string "ConnectionSuccess",
      .array [bufferJson id1, bufferJson id2, bufferJson id3]]
  | tunnel (.connectionFailure code) => .array [.string "ConnectionFailure", .int code]
  | tunnel .connectionShutdown => .array [.string "ConnectionShutdown"]
  | tunnel (.connectionReset code connectionId serviceId) =>
    .array [.string "ConnectionReset", .int code, .int connectionId, bufferJson serviceId]
  | tunnel .sessionReset => .array [.string "SessionReset"]
  | tunnel (.sendMessageComplete code messageType) =>
    .array [.string "SendMessageComplete", .int code, bufferJson messageType]
  | tunnel (.messageReceived connectionId payload serviceId) =>
    .array [.string "MessageReceived", .int connectionId, bufferJson payload,
      bufferJson serviceId]
  | tunnel (.streamStarted code connectionId serviceId) =>
    .array [.string "StreamStarted", .int code, .int connectionId, bufferJson serviceId]
  | tunnel (.streamStopped serviceId) => .array [.string "StreamStopped", bufferJson serviceId]

/-- What a handler of the bench's own shows of a jobs event. -/
def detailJson : Jobs.Event → Value
  | .getPendingAccepted answer =>
    ofOption (fun (a : Jobs.PendingAnswer) =>
      .array [ofOption (fun (q : List Jobs.ListedExecution) => .int q.length) a.queued,
        ofOption (fun (q : List Jobs.ListedExecution) => .int q.length) a.inProgress,
        ofOption .string a.clientToken]) answer
  | .getPendingRejected rejection | .startNextRejected rejection | .describeRejected rejection
  | .updateRejected rejection =>
    ofOption (fun (r : Jobs.Rejection) =>
      .array [ofOption (fun code => .int (Coded.code code)) r.code,
        ofOption .string r.message]) rejection
  | .executionsChanged change =>
    ofOption (fun (c : Jobs.ExecutionsChange) =>
      .array [ofOption (fun (jobs : List (Jobs.Status × List Jobs.ListedExecution)) =>
          ofFields (jobs.map fun entry => (Coded.name entry.1, .int entry.2.length))) c.jobs,
        ofOption ofInstant c.timestamp]) change
  | .nextExecutionChanged change =>
    ofOption (fun (c : Jobs.NextChange) =>
      .array [.bool c.execution.isSome, ofOption ofInstant c.timestamp]) change
  | .startNextAccepted answer | .describeAccepted answer =>
    ofOption (fun (a : Jobs.ExecutionAnswer) =>
      .array [.bool a.execution.isSome, ofOption ofInstant a.timestamp,
        ofOption .string a.clientToken]) answer
  | .updateAccepted answer =>
    ofOption (fun (a : Jobs.UpdateAnswer) =>
      .array [.bool a.state.isSome, a.document.getD .null, ofOption .string a.clientToken]) answer

/-- What a handler of the bench's own shows of a tunnel event: its name, then its fields. -/
def tunnelJson (e : Tunnel.Event) : Value :=
  let id : Option (List UInt8) → Value := ofOption ofBytes
  let fields : List Value :=
    match e with
    | .connectionSuccess id1 id2 id3 => [id id1, id id2, id id3]
    | .connectionFailure code => [.int code]
    | .connectionShutdown | .sessionReset => []
    | .connectionReset code connectionId serviceId =>
      [.int code, .int connectionId, id serviceId]
    | .sendMessageComplete code messageType => [.int code, ofBytes messageType]
    | .messageReceived connectionId payload serviceId =>
      [.int connectionId, id payload, id serviceId]
    | .streamStarted code connectionId serviceId =>
      [.int code, .int connectionId, id serviceId]
    | .streamStopped serviceId => [id serviceId]
  .array (.string e.slot.name :: fields)

/-- What a handler of the bench's own was told. -/
def Raw.toJson : Raw → Value
  | connection s => s.lifecycleJson
  | jobs (.subscribed topic io) => .array [.string "subscribed", .string topic.name, .int io]
  | jobs (.published token io) => .array [.string "published", tokenJson token, .int io]
  | jobs (.event e io) => .array [.string e.topic.name, detailJson e, .int io]
  | tunnel e => tunnelJson e

/-- A field that is left out when it is empty. -/
def unlessEmpty (key : String) (elements : List Value) : List (String × Value) :=
  if elements.isEmpty then [] else [(key, .array elements)]

namespace State

/-- The form of a report. -/
def Report.toJson (r : Report) : Value :=
  let observed := r.calls.flatMap fun call => call.2.observed
  let documents := r.calls.flatMap fun call => call.2.documents
  ofFields ([("r", r.answer.toJson), ("live", .int r.live)] ++
    unlessEmpty "calls" (r.calls.map fun call => .array [.string call.1, call.2.toJson]) ++
    unlessEmpty "observed" (observed.map fun seen => .array [.string seen.1, ofTexts seen.2]) ++
    unlessEmpty "documents" (documents.map fun document =>
      .array [.string ((Utf8.decode? document.bytes).getD ""), .bool document.owned]) ++
    unlessEmpty "raw" (r.raw.map Raw.toJson) ++
    unlessEmpty "log" (r.log.map Log.Line.toJson) ++
    unlessEmpty "events" (r.events.map fun told =>
      .array [.string told.1, told.2.toJson, .bool told.2.endsSession]))

/-- The steps of a script one after the other, with the form of each report; nothing for a
step that is none. -/
def play (s : State) : List Value → List (Option Value)
  | [] => []
  | v :: rest =>
    match Step.ofJson? v with
    | none => none :: s.play rest
    | some st =>
      let (s, report) := s.run st
      some report.toJson :: s.play rest

end State

end Bench

end DeviceLink
