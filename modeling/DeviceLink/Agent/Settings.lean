import DeviceLink.Agent.Files
import DeviceLink.Agent.Identity
import DeviceLink.Log
import DeviceLink.Mqtt.Code
import DeviceLink.Number.Shortest
import DeviceLink.Text.Quoted
import DeviceLink.Toml.Reader
/-!
# Settings of the agent

What a settings file holds and how it is read. Entries are read in the order of the file and
the first that does not fit ends it; missing ones are looked for after that. Entries of other
names are ignored.
-/

namespace DeviceLink.Agent

open Mqtt Toml

/-- How the agent connects. -/
structure MqttSettings where
  endpoint : String
  port : Nat := 8883
  /-- Generated when absent or empty. -/
  clientId : Option String := none
  cleanSession : Bool := true
  keepAliveSeconds : Nat := 30
  pingTimeoutMs : Nat := 3000
  certPath : Option String := none
  keyPath : Option String := none
  caPath : Option String := none
  username : Option String := none
  password : Option String := none
  useTls : Bool := true
  deriving DecidableEq, Repr

/-- All settings. -/
structure Settings where
  thingName : String
  mqtt : MqttSettings
  /-- Filters subscribed once the connection is up. -/
  topics : List String := []
  /-- The quality of service asked for them. -/
  qos : Qos := Qos.default
  /-- The most verbose diagnostics passed on. -/
  logLevel : Log.Level := .info
  deriving DecidableEq, Repr

/-- Why a document holds no settings. -/
inductive DecodeFault
  | missing (field : String)
  | wrongType (found : Item) (expected : String)
  | outOfRange (n : Int) (expected : String)
  | unknownQos (n : Int)
  | unknownLevel (name : String)
  /-- A list of settings without even the first. -/
  | noFields
  /-- A level that is neither a string nor a table. -/
  | noLevel
  | noEntry
  | severalEntries
  /-- A table that names a level and holds something for it. -/
  | levelWithEntries
  | levelWithRows
  | levelWithValue (found : Item)
  deriving Repr

/-- How a value is called that stands where another type is wanted. -/
def describe : Item → String
  | .string s => "string " ++ Quoted.quote s
  | .integer n => s!"integer `{n}`"
  | .float d => "floating point `" ++ String.ofList (Layout.writeDouble ⟨fun _ => true⟩ d) ++ "`"
  | .boolean b => s!"boolean `{b}`"
  | .datetime _ | .table .. => "map"
  | .array _ | .tables _ => "sequence"

/-- The name of the type of a value. -/
def typeName : Item → String
  | .string _ => "string"
  | .integer _ => "integer"
  | .float _ => "float"
  | .boolean _ => "boolean"
  | .datetime _ => "datetime"
  | .array _ => "array"
  | .table form _ => if form = .inline ∨ form = .inlineDotted then "inline table" else "table"
  | .tables _ => "array of tables"

/-- The names of the levels. -/
def levelNames : List String := Log.Level.all.map Log.Level.name

/-- The wording of a fault. -/
def DecodeFault.message : DecodeFault → String
  | missing field => s!"missing field `{field}`"
  | wrongType found expected => s!"invalid type: {describe found}, expected {expected}"
  | outOfRange n expected => s!"invalid value: integer `{n}`, expected {expected}"
  | unknownQos n => Qos.refusal n
  | unknownLevel name => unknownName name levelNames
  | noFields => "invalid length 0, expected struct MqttSettings with 12 elements"
  | noLevel => "wanted string or table"
  | noEntry => "wanted exactly 1 element, found 0 elements"
  | severalEntries => "wanted exactly 1 element, more than 1 element"
  | levelWithEntries => "expected empty table"
  | levelWithRows => "expected empty array"
  | levelWithValue found => s!"expected table, found {typeName found}"

/-! ## Single values -/

/-- A text. -/
def readText : Item → Except DecodeFault String
  | .string s => .ok s
  | found => .error (.wrongType found "a string")

/-- Yes or no. -/
def readFlag : Item → Except DecodeFault Bool
  | .boolean b => .ok b
  | found => .error (.wrongType found "a boolean")

/-- A natural number of some bits. -/
def readNatural (bits : Nat) : Item → Except DecodeFault Nat
  | .integer n =>
    if 0 ≤ n ∧ n < Nat.pow 2 bits then .ok n.toNat else .error (.outOfRange n s!"u{bits}")
  | found => .error (.wrongType found s!"u{bits}")

/-- A list of texts. -/
def readTexts : Item → Except DecodeFault (List String)
  | .array elements => elements.mapM readText
  | .tables rows => (rows.map (Item.table .header)).mapM readText
  | found => .error (.wrongType found "a sequence")

/-- A quality of service. -/
def readQos (item : Item) : Except DecodeFault Qos := do
  let n ← readNatural 8 item
  match Qos.ofRequest? n with
  | some qos => pure qos
  | none => throw (.unknownQos n)

/-- A level by its name. -/
def levelNamed (name : String) : Except DecodeFault Log.Level :=
  match Log.Level.ofName? name with
  | some level => .ok level
  | none => .error (.unknownLevel name)

/-- What may stand beside the name of a level in a table: nothing. -/
def checkNothing : Item → Except DecodeFault Unit
  | .array elements => if elements.isEmpty then .ok () else .error .levelWithEntries
  | .table _ entries => if entries.isEmpty then .ok () else .error .levelWithEntries
  | .tables rows => if rows.isEmpty then .ok () else .error .levelWithRows
  | found => .error (.levelWithValue found)

/-- A level: its name, or a table with the name as its only key. -/
def readLevel : Item → Except DecodeFault Log.Level
  | .string name => levelNamed name
  | .table _ entries =>
    match entries with
    | [] => .error .noEntry
    | [(name, value)] => do
      let level ← levelNamed name
      checkNothing value
      pure level
    | _ => .error .severalEntries
  | _ => .error .noLevel

/-! ## Connection settings -/

namespace MqttSettings

/-- The names of the entries, in the order in which a list gives them. -/
def fields : List String :=
  ["endpoint", "port", "client_id", "clean_session", "keep_alive_secs", "ping_timeout_ms",
    "cert_path", "key_path", "ca_path", "username", "password", "use_tls"]

/-- The settings with one entry read. -/
def set (s : MqttSettings) (field : String) (item : Item) : Except DecodeFault MqttSettings :=
  match field with
  | "endpoint" => do pure { s with endpoint := ← readText item }
  | "port" => do pure { s with port := ← readNatural 16 item }
  | "client_id" => do pure { s with clientId := some (← readText item) }
  | "clean_session" => do pure { s with cleanSession := ← readFlag item }
  | "keep_alive_secs" => do pure { s with keepAliveSeconds := ← readNatural 16 item }
  | "ping_timeout_ms" => do pure { s with pingTimeoutMs := ← readNatural 32 item }
  | "cert_path" => do pure { s with certPath := some (← readText item) }
  | "key_path" => do pure { s with keyPath := some (← readText item) }
  | "ca_path" => do pure { s with caPath := some (← readText item) }
  | "username" => do pure { s with username := some (← readText item) }
  | "password" => do pure { s with password := some (← readText item) }
  | "use_tls" => do pure { s with useTls := ← readFlag item }
  | _ => .ok s

/-- The settings of several entries. -/
def ofEntries (entries : Entries) : Except DecodeFault MqttSettings := do
  let s ← entries.foldlM (fun s (field, item) => s.set field item) { endpoint := "" }
  if (entries.lookup "endpoint").isSome then pure s else throw (.missing "endpoint")

/-- The settings of a document: a table, or a list of the entries in their order. A date is
a table without known entries. -/
def ofItem : Item → Except DecodeFault MqttSettings
  | .table _ entries => ofEntries entries
  | .datetime _ => .error (.missing "endpoint")
  | .array [] | .tables [] => .error .noFields
  | .array elements => ofEntries (fields.zip elements)
  | .tables rows => ofEntries (fields.zip (rows.map (Item.table .header)))
  | found => .error (.wrongType found "struct MqttSettings")

/-- The client id that is used: the given one unless it is empty, else one from a draw. -/
def resolvedClientId (s : MqttSettings) (d : Draw) : String :=
  match s.clientId with
  | some id => if id = "" then d.clientId else id
  | none => d.clientId

end MqttSettings

/-! ## The whole file -/

/-- Entries that have been read. -/
structure Gathered where
  thingName : Option String := none
  mqtt : Option MqttSettings := none
  topics : List String := []
  qos : Qos := Qos.default
  logLevel : Log.Level := .info

namespace Gathered

/-- One entry more. -/
def set (p : Gathered) (field : String) (item : Item) : Except DecodeFault Gathered :=
  match field with
  | "thing_name" => do pure { p with thingName := some (← readText item) }
  | "mqtt" => do pure { p with mqtt := some (← MqttSettings.ofItem item) }
  | "topics" => do pure { p with topics := ← readTexts item }
  | "qos" => do pure { p with qos := ← readQos item }
  | "bridge_log_level" => do pure { p with logLevel := ← readLevel item }
  | _ => .ok p

/-- The settings, if all that is required is there. -/
def settings (p : Gathered) : Except DecodeFault Settings := do
  let some thingName := p.thingName | throw (.missing "thing_name")
  let some mqtt := p.mqtt | throw (.missing "mqtt")
  pure { thingName, mqtt, topics := p.topics, qos := p.qos, logLevel := p.logLevel }

end Gathered

/-- Why a settings file cannot be used. -/
inductive SettingsFault
  | file (cause : FileFault)
  | noDocument
  | decode (cause : DecodeFault)
  deriving Repr

namespace Settings

/-- The settings of a document. -/
def ofEntries (entries : Entries) : Except DecodeFault Settings := do
  let p ← entries.foldlM (fun (p : Gathered) (field, item) => p.set field item) {}
  p.settings

/-- The settings of a text. -/
def ofText (text : String) : Except SettingsFault Settings :=
  match Entries.parse? text with
  | none => .error .noDocument
  | some entries => (ofEntries entries).mapError .decode

/-- The settings of a file. -/
def load (files : Files) (path : String) : Except SettingsFault Settings :=
  match files.text path with
  | .error cause => .error (.file cause)
  | .ok text => ofText text

end Settings

end DeviceLink.Agent
