import DeviceLink.Json.Value
import DeviceLink.Number.Shortest
/-!
# Writing JSON

No blanks, the shortest escapes, and numbers with the fewest digits that read back.
-/

namespace DeviceLink.Json

/-- Doubles have their point in place when the leading digit stands from 10^-5 to 10^15. -/
def numberLayout : Layout := ⟨fun leading => -5 ≤ leading ∧ leading ≤ 15⟩

/-- One character of a string. -/
def escape (c : Char) : List Char :=
  if c = '"' then ['\\', '"']
  else if c = '\\' then ['\\', '\\']
  else if c = '\x08' then ['\\', 'b']
  else if c = '\x0c' then ['\\', 'f']
  else if c = '\n' then ['\\', 'n']
  else if c = '\r' then ['\\', 'r']
  else if c = '\t' then ['\\', 't']
  else if c.toNat < 0x20 then
    ['\\', 'u', '0', '0', Nat.digitChar (c.toNat / 16), Nat.digitChar (c.toNat % 16)]
  else [c]

/-- A string between its quotes. -/
def writeString (s : String) : List Char := '"' :: s.toList.flatMap escape ++ ['"']

/-- An integer in decimal. -/
def writeInt (n : Int) : List Char :=
  if n < 0 then '-' :: Nat.toDigits 10 n.natAbs else Nat.toDigits 10 n.natAbs

mutual

/-- The characters of a value. -/
def Value.write : Value → List Char
  | .null => ['n', 'u', 'l', 'l']
  | .bool true => ['t', 'r', 'u', 'e']
  | .bool false => ['f', 'a', 'l', 's', 'e']
  | .int n => writeInt n
  | .double d => numberLayout.writeDouble d
  | .string s => writeString s
  | .array [] => ['[', ']']
  | .array (v :: vs) => '[' :: (v.write ++ writeElements vs)
  | .object [] => ['\x7b', '\x7d']
  | .object ((k, v) :: fs) => '\x7b' :: (writeString k ++ ':' :: (v.write ++ writeFields fs))

/-- The elements after the first, and the closing bracket. -/
def writeElements : List Value → List Char
  | [] => [']']
  | v :: vs => ',' :: (v.write ++ writeElements vs)

/-- The fields after the first, and the closing brace. -/
def writeFields : List (String × Value) → List Char
  | [] => ['\x7d']
  | (k, v) :: fs => ',' :: (writeString k ++ ':' :: (v.write ++ writeFields fs))

end

/-- The text of a value. -/
def Value.render (v : Value) : String := String.ofList v.write

end DeviceLink.Json
