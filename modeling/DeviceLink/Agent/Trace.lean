import DeviceLink.Json.Value
import DeviceLink.Log
/-!
# Structured diagnostics

A diagnostic of the agent has a level, a message and named values.
-/

namespace DeviceLink.Agent

/-- A structured diagnostic. -/
structure Trace where
  level : Log.Level
  message : String
  fields : List (String × Json.Value) := []
  deriving Repr

/-- The message and the named values. -/
def Trace.values (t : Trace) : List (String × Json.Value) :=
  ("message", .string t.message) :: t.fields

/-- A record of a client handle as a structured diagnostic. -/
def Trace.ofRecord (r : Log.Record) : Trace :=
  { level := r.level
    message := r.message
    fields := [("file", .string r.file), ("line", .int r.line), ("name", .string r.name)] }

end DeviceLink.Agent
