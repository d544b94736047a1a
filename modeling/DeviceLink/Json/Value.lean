import DeviceLink.Number.Double
/-!
# JSON values

A number is an integer of 64 bits, signed or not, or a double. The fields of an object that
was read or made by `Value.ofFields` stand in the order of their keys, each key once.
-/

namespace DeviceLink.Json

/-- A JSON value. -/
inductive Value
  | null
  | bool (b : Bool)
  | int (n : Int)
  | double (d : Double)
  | string (s : String)
  | array (elements : List Value)
  | object (fields : List (String × Value))
  deriving Repr, Inhabited

/-- The least integer that is kept as one. -/
def minInt : Int := -0x8000000000000000

/-- The greatest integer that is kept as one. -/
def maxInt : Int := 0xFFFFFFFFFFFFFFFF

/-- The fields with `key` set to `value`: replaced in place, or put where the order of keys
has it. -/
def setField (key : String) (value : Value) : List (String × Value) → List (String × Value)
  | [] => [(key, value)]
  | (k, v) :: rest =>
    if key = k then (key, value) :: rest
    else if key < k then (key, value) :: (k, v) :: rest
    else (k, v) :: setField key value rest

/-- The object of the fields given; the last of several with one key counts. -/
def Value.ofFields (fields : List (String × Value)) : Value :=
  .object (fields.foldl (fun acc (k, v) => setField k v acc) [])

mutual

/-- How deep arrays and objects nest: none for a scalar, one for an empty array. -/
def Value.nesting : Value → Nat
  | .array elements => elementsNesting elements + 1
  | .object fields => fieldsNesting fields + 1
  | _ => 0

/-- The deepest nesting among elements. -/
def elementsNesting : List Value → Nat
  | [] => 0
  | v :: vs => max v.nesting (elementsNesting vs)

/-- The deepest nesting among fields. -/
def fieldsNesting : List (String × Value) → Nat
  | [] => 0
  | (_, v) :: fs => max v.nesting (fieldsNesting fs)

end

end DeviceLink.Json
