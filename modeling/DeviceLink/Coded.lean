/-!
# Coded values

A type whose values travel as integers. `ofCode?` finds the value of an integer; `decode`
says which type refused it.
-/

namespace DeviceLink

/-- A finite type whose values stand for integers and have names. -/
class Coded (α : Type) where
  /-- The name of the type, for diagnostics. -/
  typeName : String
  /-- Every value, in the order of declaration. -/
  all : List α
  code : α → Int
  name : α → String

/-- An integer that stands for no value of a type. -/
structure UnknownCode where
  code : Int
  typeName : String
  deriving DecidableEq, Repr

/-- The wording of an unknown code. -/
def UnknownCode.message (e : UnknownCode) : String :=
  s!"can't parse \"{e.code}\" to enum \"{e.typeName}\""

namespace Coded

variable {α : Type} [Coded α]

/-- The value an integer stands for. -/
def ofCode? (n : Int) : Option α := (all : List α).find? fun a => code a = n

/-- The value an integer stands for, or who refused it. -/
def decode (n : Int) : Except UnknownCode α :=
  match ofCode? n with
  | some a => .ok a
  | none => .error ⟨n, typeName α⟩

/-- The value with a name. -/
def ofName? (text : String) : Option α := (all : List α).find? fun a => name a = text

end Coded

/-- A name that is none of the names expected, as a diagnostic shows it. -/
def unknownName (text : String) (expected : List String) : String :=
  s!"unknown variant `{text}`, expected one of " ++
    ", ".intercalate (expected.map fun n => s!"`{n}`")

end DeviceLink
