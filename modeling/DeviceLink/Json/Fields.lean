import DeviceLink.Json.Reader
/-!
# Fields of JSON objects

Reading an object by its keys. A field that is missing, null or of another sort is not
there; each reader says what stands for it then.
-/

namespace DeviceLink.Json.Value

/-- A field that is there and not null. -/
def field? (v : Value) (key : String) : Option Value :=
  match v with
  | .object fields =>
    match fields.lookup key with
    | some .null => none
    | found => found
  | _ => none

/-- The number of an integer. -/
def asInt? : Value → Option Int
  | .int n => some n
  | _ => none

/-- The text of a string. -/
def asText? : Value → Option String
  | .string s => some s
  | _ => none

/-- The truth value of one. -/
def asBool? : Value → Option Bool
  | .bool b => some b
  | _ => none

/-- The elements of an array; anything else has none. -/
def elements : Value → List Value
  | .array elements => elements
  | _ => []

/-- An integer field. -/
def intAt? (v : Value) (key : String) : Option Int := (v.field? key).bind asInt?

/-- A text field. -/
def textAt? (v : Value) (key : String) : Option String := (v.field? key).bind asText?

/-- A field with a truth value. -/
def boolAt? (v : Value) (key : String) : Option Bool := (v.field? key).bind asBool?

/-- The elements of a field. -/
def listAt? (v : Value) (key : String) : Option (List Value) := (v.field? key).map elements

/-- A field as a value, null if it is not there. -/
def part (v : Value) (key : String) : Value := (v.field? key).getD .null

/-- An integer field, zero if it is not there. -/
def intAt (v : Value) (key : String) : Int := (v.intAt? key).getD 0

/-- A field with a natural number, zero if it is not there. -/
def natAt (v : Value) (key : String) : Nat := (v.intAt key).toNat

/-- A natural number, if the field is there. -/
def natAt? (v : Value) (key : String) : Option Nat := (v.intAt? key).map Int.toNat

/-- A text field, empty if it is not there. -/
def textAt (v : Value) (key : String) : String := (v.textAt? key).getD ""

/-- A field with a truth value, false if it is not there. -/
def boolAt (v : Value) (key : String) : Bool := (v.boolAt? key).getD false

/-- The elements of a field, none if it is not there. -/
def listAt (v : Value) (key : String) : List Value := (v.listAt? key).getD []

/-- The texts among the elements of a field. -/
def textsAt (v : Value) (key : String) : List String := (v.listAt key).filterMap asText?

/-- What may be missing, null in its place. -/
def ofOption {α : Type} (write : α → Value) : Option α → Value
  | some a => write a
  | none => .null

/-- An array of texts. -/
def ofTexts (texts : List String) : Value := .array (texts.map .string)

end DeviceLink.Json.Value
