import DeviceLink.Coded
import DeviceLink.Error
import DeviceLink.Json.Fields
import DeviceLink.Log
import DeviceLink.Time.Instant
/-!
# Written forms

The JSON forms of bytes, times, codes, errors and log lines, as scripts for the bench give
them and its transcripts show them.
-/

namespace DeviceLink

open Json (Value)

namespace Json.Value

/-- The bytes that pairs of hexadecimal digits spell. -/
def hexPairs : List Char → List UInt8
  | a :: b :: rest =>
    UInt8.ofNat ((hexDigit? a).getD 0 * 16 + (hexDigit? b).getD 0) :: hexPairs rest
  | _ => []

/-- Bytes: those of a text, of hexadecimal digits, or of a text repeated. -/
def bytes (v : Value) : List UInt8 :=
  match v with
  | .string s => Utf8.encode s
  | v =>
    match v.textAt? "hex", v.textAt? "repeat" with
    | some digits, _ => hexPairs digits.toList
    | none, some s => (List.replicate (v.natAt "times") (Utf8.encode s)).flatten
    | none, none => []

/-- A field with bytes. -/
def bytesAt? (v : Value) (key : String) : Option (List UInt8) := (v.field? key).map bytes

/-- A field with bytes, empty if it is not there. -/
def bytesAt (v : Value) (key : String) : List UInt8 := (v.bytesAt? key).getD []

/-- A field with a time, as seconds and nanoseconds. -/
def instantAt? (v : Value) (key : String) : Option Instant :=
  match v.listAt? key with
  | some [.int seconds, .int nanos] => some ⟨seconds, nanos.toNat⟩
  | _ => none

/-- A field with a log level. -/
def levelAt? (v : Value) (key : String) : Option Log.Level :=
  (v.textAt? key).bind Log.Level.ofName?

/-- Bytes in hexadecimal digits. -/
def ofBytes (bytes : List UInt8) : Value :=
  .string (String.ofList (bytes.flatMap fun b =>
    [Nat.digitChar (b.toNat / 16), Nat.digitChar (b.toNat % 16)]))

/-- A time in words. -/
def ofInstant (t : Instant) : Value := .string t.render

/-- A code by its name. -/
def ofCode {α : Type} [Coded α] (a : α) : Value := .string (Coded.name a)

/-- An error by its kind, and its wording. -/
def ofFault (kind message : String) : Value :=
  ofFields [("error", .string kind), ("message", .string message)]

/-- A refusal by its kind. -/
def ofRefusal (kind : String) : Value := ofFields [("error", .string kind)]

/-- A value, or an error in its place. -/
def ofExcept {ε α : Type} (failed : ε → Value) (write : α → Value) : Except ε α → Value
  | .ok a => write a
  | .error e => failed e

end Json.Value

/-- The form of an unknown code. -/
def UnknownCode.toJson (e : UnknownCode) : Value := .ofFault "UnrecognizedEnumValue" e.message

/-- The kind of an error at the boundary. -/
def ClientError.kind : ClientError → String
  | missingAuth => "MissingAuth"
  | badConfig _ => "NativeConfig"
  | badConnection _ => "NativeConnection"
  | connect .. => "Connect"
  | subscription _ => "Subscription"
  | tunnel _ => "Tunnel"
  | unknownCode _ => "UnrecognizedEnumValue"

/-- The form of an error at the boundary. -/
def ClientError.toJson (e : ClientError) : Value := .ofFault e.kind e.message

/-- The kind of a library error. -/
def LibraryError.kind : LibraryError → String
  | config _ => "Config"
  | connection _ => "Connection"
  | tls _ => "Tls"
  | unsupported _ => "Unsupported"
  | other _ => "Other"

/-- The form of a library error. -/
def LibraryError.toJson (e : LibraryError) : Value := .ofFault e.kind e.message

/-- The form of a log record with its place. -/
def Log.Record.toJson (r : Record) : Value :=
  .array [.string r.level.name, .string r.message, .string r.file, .int r.line, .string r.name]

/-- The form of a line of the log. -/
def Log.Line.toJson (l : Line) : Value := .array [.string l.level.name, .string l.message]

end DeviceLink
