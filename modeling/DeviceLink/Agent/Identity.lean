/-!
# Generated names

A name for a client that has none: a fixed start and an identifier of 128 bits that begins
with the time and ends with a random draw, so that later names sort after earlier ones.
-/

namespace DeviceLink.Agent

/-- The time in milliseconds since 1970 and 74 random bits. -/
structure Draw where
  millis : Nat
  random : Nat
  deriving DecidableEq, Repr

namespace Draw

/-- The version of a time-ordered identifier. -/
def version : Nat := 7

/-- A number with a field of some bits appended. -/
def append (n width value : Nat) : Nat := n * Nat.pow 2 width + value % Nat.pow 2 width

/-- The 128 bits: 48 of time, the version, 12 random, the variant `10`, 62 random. -/
def bits (d : Draw) : Nat :=
  let time := append 0 48 d.millis
  let high := append (append time 4 version) 12 (d.random / Nat.pow 2 62)
  append (append high 2 2) 62 d.random

/-- The lowest hexadecimal digits of a number, as many as asked for. -/
def hexDigits : Nat → Nat → List Char
  | 0, _ => []
  | count + 1, n => hexDigits count (n / 16) ++ [Nat.digitChar (n % 16)]

/-- The groups of digits with dashes between, after 8, 12, 16 and 20 digits. -/
def dashed (digits : List Char) : List Char :=
  digits.take 8 ++ ['-'] ++ (digits.drop 8).take 4 ++ ['-'] ++ (digits.drop 12).take 4 ++ ['-'] ++
    (digits.drop 16).take 4 ++ ['-'] ++ digits.drop 20

/-- The name of a client. -/
def clientId (d : Draw) : String :=
  "tether-" ++ String.ofList (dashed (hexDigits 32 d.bits))

end Draw

end DeviceLink.Agent
