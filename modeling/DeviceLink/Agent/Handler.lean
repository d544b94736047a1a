import DeviceLink.Agent.Session
import DeviceLink.Agent.Trace
import DeviceLink.Json.Reader
import DeviceLink.Json.Writer
/-!
# Handling events

What the agent does with an event: it subscribes its topics on a connection whose session
the broker did not keep, and notes every event.
-/

namespace DeviceLink.Agent

open Mqtt

/-- What handling an event leads to. -/
structure Handled (σ : Type) where
  connection : σ
  traces : List Trace
  /-- What the client noted. -/
  notes : List Log.Line := []

/-- The note of an event. The payload of a message is shown if it is JSON, else its size. -/
def Event.trace : Event → Trace
  | connected sessionPresent =>
    ⟨.info, "connected", [("session_present", .bool sessionPresent)]⟩
  | resumed returnCode sessionPresent =>
    ⟨.info, "connection resumed",
      [("return_code", .string (Coded.name returnCode)), ("session_present", .bool sessionPresent)]⟩
  | connectFailed code returnCode =>
    ⟨.error, "connection attempt failed",
      [("error_code", .int code), ("return_code", .string (Coded.name returnCode))]⟩
  | interrupted code => ⟨.warn, "connection interrupted", [("error_code", .int code)]⟩
  | closed => ⟨.info, "connection closed", []⟩
  | message topic payload _ retain =>
    let shown : String × Json.Value :=
      match Json.Value.ofBytes? payload with
      | some value => ("payload", .string value.render)
      | none => ("bytes", .int payload.length)
    ⟨.info, "message", [("topic", .string topic), ("retain", .bool retain), shown]⟩
  | subAck _ topic qos code =>
    if code ≠ 0 then
      ⟨.error, "subscribe failed", [("topic", .string topic), ("error_code", .int code)]⟩
    else ⟨.info, "subscribed", [("topic", .string topic), ("qos", .string (Coded.name qos))]⟩
  | published id code | unsubscribed id code =>
    ⟨.debug, "operation completed", [("packet_id", .int id), ("error_code", .int code)]⟩

/-- Whether an event calls for the topics to be subscribed: a connection is up and the broker
has no session for it. -/
def Event.wantsTopics : Event → Bool
  | connected sessionPresent | resumed _ sessionPresent => !sessionPresent
  | connectFailed .. | interrupted _ | closed | message .. | subAck .. | published ..
  | unsubscribed .. => false

variable {σ : Type → Type} {ρ : Type} [Backend σ]

/-- Subscribing the topics in one request, if there are any. -/
def subscribeAll (c : σ ρ) (receiver : ρ) (topics : List String) (qos : Qos) : Handled (σ ρ) :=
  if topics.isEmpty then ⟨c, [], []⟩
  else
    let reply := Client.subscribeMany c receiver topics qos
    let traces : List Trace :=
      if reply.answer.isSome then []
      else [⟨.error, "subscribe request was not sent",
        [("topics", .string (Quoted.quoteList topics))]⟩]
    ⟨reply.connection, traces, reply.notes⟩

/-- Handling an event. -/
def handle (c : σ ρ) (receiver : ρ) (topics : List String) (qos : Qos) (e : Event) : Handled (σ ρ) :=
  if e.wantsTopics then
    let subscribed := subscribeAll c receiver topics qos
    { subscribed with traces := e.trace :: subscribed.traces }
  else ⟨c, [e.trace], []⟩

/-- Handling events in order, and the notes of each. -/
def handleAll (c : σ ρ) (receiver : ρ) (topics : List String) (qos : Qos) :
    List Event → σ ρ × List (List Trace) × List Log.Line
  | [] => (c, [], [])
  | e :: rest =>
    let first := handle c receiver topics qos e
    let (c, traces, notes) := handleAll first.connection receiver topics qos rest
    (c, first.traces :: traces, first.notes ++ notes)

end DeviceLink.Agent
