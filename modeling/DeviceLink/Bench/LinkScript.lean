import DeviceLink.Bench.LinkStep
import DeviceLink.Form.Mqtt
/-!
# Scripts for a link

Steps on a link, packets and the script of a broker as JSON objects, and the answers and the
broker's log as JSON. Acknowledgements that come together are shown by their ids.
-/

namespace DeviceLink

open Json (Value)
open Json.Value

namespace Link

/-- The codes of a list that are known. -/
def codes {α : Type} [Coded α] (numbers : List Value) : List α :=
  numbers.filterMap fun n => n.asInt?.bind Coded.ofCode?

/-- A packet from the broker. -/
def Packet.ofJson? (v : Value) : Option Packet :=
  let pkid := v.natAt "pkid"
  match v.textAt "type" with
  | "connack" =>
    some (.connAck ((Coded.ofCode? (v.intAt "code")).getD .accepted)
      (v.boolAt "session_present"))
  | "publish" =>
    some (.publish {
      topic := v.textAt "topic"
      payload := v.bytesAt "payload"
      dup := v.boolAt "dup"
      qos := (Mqtt.Qos.ofRequest? (v.intAt "qos")).getD .atMostOnce
      retain := v.boolAt "retain" })
  | "suback" => some (.subAck pkid (codes (v.listAt "codes")))
  | "unsuback" => some (.unsubAck pkid)
  | "puback" => some (.pubAck pkid)
  | "pubrec" => some (.pubRec pkid)
  | "pubrel" => some (.pubRel pkid)
  | "pubcomp" => some (.pubComp pkid)
  | "pingreq" => some .pingReq
  | "pingresp" => some .pingResp
  | "disconnect" => some .disconnect
  | _ => none

/-- A packet that the event loop has sent. -/
def Outgoing.ofJson? (v : Value) : Option Outgoing :=
  let pkid := v.natAt "pkid"
  match v.textAt "kind" with
  | "publish" => some (.publish pkid)
  | "subscribe" => some (.subscribe pkid)
  | "unsubscribe" => some (.unsubscribe pkid)
  | "puback" => some (.pubAck pkid)
  | "pubrec" => some (.pubRec pkid)
  | "pubrel" => some (.pubRel pkid)
  | "pubcomp" => some (.pubComp pkid)
  | "pingreq" => some .pingReq
  | "pingresp" => some .pingResp
  | "disconnect" => some .disconnect
  | "await_ack" => some (.awaitAck pkid)
  | _ => none

/-- The form of a frame that a broker received; the second half of a publish is not shown. -/
def Frame.toJson? : Frame → Option Value
  | connect options credentials =>
    some (.array [.string "connect", .string options.clientId, .bool options.cleanSession,
      .int options.keepAliveSeconds, ofOption (fun c => ofTexts [c.1, c.2]) credentials])
  | subscribe _ filters =>
    some (.array [.string "subscribe",
      .array (filters.map fun f => .array [.string f.1, .int (Mqtt.Qos.code f.2)])])
  | unsubscribe _ topic => some (.array [.string "unsubscribe", ofTexts [topic]])
  | publish _ m =>
    some (.array [.string "publish", .string m.topic, ofBytes m.payload, .int m.qos.code,
      .bool m.retain])
  | pubRel _ => none
  | disconnect => some (.array [.string "disconnect"])

/-- The name of a kind of request. -/
def Kind.name : Kind → String
  | subscribe => "subscribe"
  | unsubscribe => "unsubscribe"
  | publish => "publish"

/-- The form of a link's state. What was sent is shown by kind and packet id. -/
def Connection.toJson (c : Connection String) : Value :=
  let queued (kind : Kind) : Value :=
    .array ((c.tracker.queuedIds kind).map fun id => .int (Int.ofNat id))
  let sent := (c.tracker.sent.map fun entry =>
    (entry.1.1.name, entry.1.2, entry.2.id)).mergeSort fun a b =>
      a.1 < b.1 || (a.1 = b.1 && a.2.1 ≤ b.2.1)
  ofFields [
    ("queued", .array [queued .subscribe, queued .unsubscribe, queued .publish]),
    ("sent", .array (sent.map fun s => .array [.string s.1, .int s.2.1, .int s.2.2])),
    ("routes", ofTexts (c.routes.map (·.1))),
    ("connected_once", .bool c.connectedOnce),
    ("online", .bool c.online),
    ("closing", .bool c.closing),
    ("client", .bool c.client),
    ("last_error", .int c.lastError)]

end Link

namespace Simulated

/-- The script of a broker. -/
def Script.ofJson (v : Value) : Script :=
  { connAck := (Coded.ofCode? (v.intAt "connack")).getD .accepted
    sessionPresent := v.boolAt "session_present"
    withholdsConnAck := v.boolAt "no_connack"
    greet := (v.listAt "greet").filterMap Link.Packet.ofJson?
    hangsUp := v.boolAt "close"
    granted := (v.listAt? "granted").map Link.codes
    echo := v.boolAt "echo"
    afterSubscribe := (v.listAt "after_subscribe").filterMap Link.Packet.ofJson? }

/-- The form of what a broker has received. -/
def Broker.toJson (b : Broker) : Value := .array (b.log.filterMap Link.Frame.toJson?)

end Simulated

namespace Bench

/-- A step of a script for a link. -/
def LinkStep.ofJson? (v : Value) : Option LinkStep :=
  let topic := v.textAt "topic"
  let qos := v.qosAt
  match v.textAt "do" with
  | "new" => some (.make (Mqtt.Draft.callsOfJson v "config") (v.boolAt "unchecked"))
  | "jobs_client" => some .jobsClient
  | "tunneling_client" => some .tunnelingClient
  | "secure_tunnel" => some .secureTunnel
  | "set_handlers" => some (.setHandlers (Mqtt.Lifecycle.ofJson v ""))
  | "connect" => some (.connect (Mqtt.ConnectOptions.ofJson (v.part "options")))
  | "subscribe" => some (.subscribe topic qos ((v.textAt? "tag").getD topic))
  | "subscribe_multiple" => some (.subscribeMany (v.textsAt "topics") qos)
  | "unsubscribe" => some (.unsubscribe topic)
  | "publish" =>
    some (.publish topic qos (v.boolAt "retain") (v.bytesAt "payload")
      ((v.natAt? "times").getD 1))
  | "disconnect" => some .disconnect
  | "outgoing" => (Link.Outgoing.ofJson? v).map .outgoing
  | "incoming" => (Link.Packet.ofJson? (v.part "packet")).map .incoming
  | "interrupted" => some (.interrupted (v.intAt "code"))
  | "abandon" => some (.abandon (v.intAt "code"))
  | "closed" => some .closed
  | "poll_refused" => some .pollRefused
  | "wait" => some (.wait (v.natAt "calls"))
  | _ => none

/-- Whether a step may end several requests at once. -/
def LinkStep.endsMany : LinkStep → Bool
  | closed | abandon _ | pollRefused | wait _ => true
  | _ => false

/-- The form of an answer. -/
def LinkAnswer.toJson : LinkAnswer → Value
  | nothing => .null
  | yes b => .bool b
  | id n => .int n
  | noConnection => ofRefusal "NoConnection"
  | noTask => ofRefusal "NoTask"
  | unknownCode e => e.toJson
  | libraryError e => e.toJson
  | waited arrived running => .array [.bool arrived, .bool running]

/-- The id of the request that a signal completes. -/
def completedId? : Mqtt.Signal → Option Nat
  | .subscribed id _ _ _ | .subscribedMany id _ _ _ | .unsubscribed id _ | .published id _ =>
    some id
  | .completed .. | .closed | .interrupted _ | .resumed .. | .message _ => none

/-- The form of a signal, with the tag of a message. -/
def deliveryJson (d : Mqtt.Delivery String) : Value :=
  match d.signal with
  | .message m =>
    .array [.string "message", .string d.receiver, .string m.topic, ofBytes m.payload, .bool m.dup,
      ofCode m.qos, .bool m.retain]
  | .subscribed id topic granted code =>
    .array [.string "ack", .string "subscribe", .int id, .int code, .string topic,
      ofCode granted]
  | .subscribedMany id topics granted code =>
    .array [.string "ack", .string "subscribe_multiple", .int id, .int code, ofTexts topics,
      ofCode granted]
  | .unsubscribed id code => .array [.string "ack", .string "unsubscribe", .int id, .int code]
  | .published id code => .array [.string "ack", .string "publish", .int id, .int code]
  | signal => signal.lifecycleJson

/-- Signals with the acknowledgements that lead them in the order of their ids. -/
def leadingById (ds : List (Mqtt.Delivery String)) : List (Mqtt.Delivery String) :=
  let completes (d : Mqtt.Delivery String) : Bool := (completedId? d.signal).isSome
  let id (d : Mqtt.Delivery String) : Nat := (completedId? d.signal).getD 0
  (ds.takeWhile completes).mergeSort (fun a b => id a ≤ id b) ++ ds.dropWhile completes

namespace LinkState

/-- A step with the form of its report. -/
def report (s : LinkState) (st : LinkStep) : LinkState × Value :=
  let (s, answer, deliveries) := s.step st
  let deliveries := if st.endsMany then leadingById deliveries else deliveries
  (s, ofFields [
    ("r", answer.toJson),
    ("calls", .array (deliveries.map deliveryJson)),
    ("state", ofOption Link.Connection.toJson s.connection)])

/-- The steps of a script one after the other, with the form of each report; nothing for a
step that is none. -/
def play (s : LinkState) : List Value → LinkState × List (Option Value)
  | [] => (s, [])
  | v :: rest =>
    match LinkStep.ofJson? v with
    | none =>
      let (s, reports) := s.play rest
      (s, none :: reports)
    | some st =>
      let (s, report) := s.report st
      let (s, reports) := s.play rest
      (s, some report :: reports)

end LinkState

end Bench

end DeviceLink
