import DeviceLink.Coded
import DeviceLink.Text.Utf8
/-!
# Diagnostics

A diagnostic has a level, a message and the place it comes from. A filter drops what is more
verbose than its limit; a store keeps the rest in order. Lines of the networking library come
with a level number and texts of their own.
-/

namespace DeviceLink.Log

/-- How grave a diagnostic is, the gravest first. -/
inductive Level
  | error
  | warn
  | info
  | debug
  | trace
  deriving DecidableEq, Repr, Inhabited

namespace Level

/-- The name of a level. -/
def name : Level → String
  | error => "error"
  | warn => "warn"
  | info => "info"
  | debug => "debug"
  | trace => "trace"

/-- Every level, the gravest first. -/
def all : List Level := [error, warn, info, debug, trace]

/-- The level with a name. -/
def ofName? (text : String) : Option Level := all.find? fun l => l.name = text

/-- How verbose a level is. -/
def verbosity (l : Level) : Nat := l.ctorIdx

/-- The level of a number of the networking library: none, fatal, error, warn, info, debug,
trace. What has no level is passed on as the most verbose. -/
def ofForeign (n : Int) : Except UnknownCode Level :=
  if n = 0 ∨ n = 6 then .ok trace
  else if n = 1 ∨ n = 2 then .ok error
  else if n = 3 then .ok warn
  else if n = 4 then .ok info
  else if n = 5 then .ok debug
  else .error ⟨n, "NativeLogLevel"⟩

end Level

/-- A level and a message, from wherever. -/
structure Line where
  level : Level
  message : String
  deriving DecidableEq, Repr, Inhabited

/-- A diagnostic with the place it comes from. -/
structure Record extends Line where
  file : String
  line : Nat
  name : String
  deriving DecidableEq, Repr, Inhabited

/-- The limits of nested filters. -/
abbrev Limits := List Level

/-- Whether every limit lets a level through. -/
def Limits.admits (limits : Limits) (level : Level) : Bool :=
  limits.all fun limit => level.verbosity ≤ limit.verbosity

/-- No limit keeps an error out. -/
theorem Limits.admits_error (limits : Limits) : limits.admits .error = true :=
  List.all_eq_true.2 fun _ _ => decide_eq_true (Nat.zero_le _)

/-- The records that pass, in order. -/
def Limits.pass (limits : Limits) (records : List Record) : List Record :=
  records.filter fun r => limits.admits r.level

/-- The messages at one level, in order. -/
def messagesAt (level : Level) (records : List Record) : List String :=
  (records.filter fun r => r.level = level).map fun r => r.message

/-- Whether a list begins with another one. -/
def beginsWith (needle text : List Char) : Bool := text.take needle.length = needle

/-- Whether a text holds another one. -/
def holdsText (needle : List Char) : List Char → Bool
  | [] => needle.isEmpty
  | c :: rest => beginsWith needle (c :: rest) || holdsText needle rest

/-- Whether a message at a level holds a text. -/
def mentions (level : Level) (needle : String) (records : List Record) : Bool :=
  (messagesAt level records).any fun m => holdsText needle.toList m.toList

/-- A line of the networking library as a record, or why its level is unknown. -/
def foreign (level : Int) (file : String) (line : Nat) (name message : String) :
    Except UnknownCode Record :=
  (Level.ofForeign level).map fun level => { level, message, file, line, name }

/-- The text of a string of bytes that ends at its first zero byte; an absent one is empty. -/
def foreignText : Option (List UInt8) → String
  | none => ""
  | some bytes => Utf8.decodeLossy (Utf8.untilZero bytes)

/-- What stands in the log for a line of the networking library: its record, or a warning
that it was dropped. -/
def forward (level : Int) (file : Option (List UInt8)) (line : Nat)
    (name message : Option (List UInt8)) : Record ⊕ Line :=
  match foreign level (foreignText file) line (foreignText name) (foreignText message) with
  | .ok record => .inl record
  | .error e => .inr ⟨.warn, "dropped native log line: " ++ e.message⟩

/-- The process-wide sink, which the first installation settles. -/
structure Default (α : Type) where
  installed : Option α := none

/-- Installing a sink: whether it took, and the sink in force. -/
def Default.install {α : Type} (d : Default α) (sink : α) : Bool × Default α :=
  match d.installed with
  | some _ => (false, d)
  | none => (true, ⟨some sink⟩)

end DeviceLink.Log
