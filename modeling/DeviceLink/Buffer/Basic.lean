import DeviceLink.Text.Utf8
/-!
# Byte buffers

A buffer either owns its bytes or lends a view of bytes held elsewhere. The empty buffer
owns nothing and stands for an absent payload.
-/

namespace DeviceLink

/-- Bytes, and whether the buffer owns the memory that holds them. -/
structure Buffer where
  bytes : List UInt8
  owned : Bool
  deriving DecidableEq, Repr, Inhabited

namespace Buffer

/-- No bytes, nothing owned. -/
def empty : Buffer := ⟨[], false⟩

/-- A view of bytes held elsewhere. -/
def borrowed (bytes : List UInt8) : Buffer := ⟨bytes, false⟩

/-- The number of bytes. -/
def size (b : Buffer) : Nat := b.bytes.length

/-- Whether there are no bytes. -/
def isEmpty (b : Buffer) : Bool := b.bytes.isEmpty

/-- The buffer over memory that was granted for as many bytes, or the empty one if there are
none or memory was refused. -/
def allocated (granted : Bool) (bytes : List UInt8) : Buffer :=
  if granted ∧ bytes ≠ [] then ⟨bytes, true⟩ else empty

/-- The bytes with those from an offset on overwritten, cut at the end, and how many were. -/
def overwrite (bytes : List UInt8) (offset : Nat) (patch : List UInt8) : List UInt8 × Nat :=
  let fitting := patch.take (bytes.length - offset)
  (bytes.take offset ++ fitting ++ bytes.drop (offset + fitting.length), fitting.length)

/-- Writing into a buffer that owns its memory: the buffer after it and how many bytes were
written, or nothing for one that owns none. -/
def write? (b : Buffer) (offset : Nat) (patch : List UInt8) : Option (Buffer × Nat) :=
  if b.owned ∧ ¬b.isEmpty then
    let (bytes, count) := overwrite b.bytes offset patch
    some (⟨bytes, true⟩, count)
  else none

/-- The text of the bytes. -/
def text (b : Buffer) : Except Utf8.DecodeError String := Utf8.decode b.bytes

/-- How a buffer is shown in a diagnostic: its size and ownership, not its bytes. -/
def describe (b : Buffer) : String :=
  s!"Buffer \x7b len: {b.size}, owned: {b.owned} \x7d"

end Buffer

end DeviceLink
