import DeviceLink.Buffer.Basic
/-!
# Buffers over a run

Numbered buffers, each live or gone, and the account of the memory they own: how often
memory was granted and how often it was freed. Memory is granted by a rule on sizes.
-/

namespace DeviceLink.Buffer

/-- Numbered buffers and the account of memory. -/
structure Pool where
  slots : List (Option Buffer) := []
  granted : Nat := 0
  freed : Nat := 0
  deriving DecidableEq, Repr

/-- Which sizes memory is granted for. -/
abbrev Grants := Nat → Bool

/-- Memory is granted for what fits into the 47 bits that a process can address. -/
def Grants.addressable : Grants := fun size => size < Nat.pow 2 47

namespace Pool

/-- The buffer in a live slot. -/
def get? (p : Pool) (i : Nat) : Option Buffer := p.slots[i]?.join

/-- The pool with one slot more. -/
def add (p : Pool) (b : Buffer) : Pool := { p with slots := p.slots ++ [some b] }

/-- The pool with a live slot's buffer replaced. -/
def put (p : Pool) (i : Nat) (b : Option Buffer) : Pool := { p with slots := p.slots.set i b }

/-- The pool with a new slot for bytes in memory of their own. -/
def allocate (p : Pool) (grants : Grants) (bytes : List UInt8) : Pool :=
  let b := Buffer.allocated (grants bytes.length) bytes
  { p.add b with granted := p.granted + b.owned.toNat }

/-- A slot of zero bytes in memory of their own. A size that is not granted is not built. -/
def create (p : Pool) (grants : Grants) (size : Nat) : Pool :=
  if grants size then p.allocate grants (List.replicate size 0) else p.add Buffer.empty

/-- Freeing what the buffer of a slot owns. -/
def free (p : Pool) (b : Buffer) : Pool := { p with freed := p.freed + b.owned.toNat }

end Pool

/-- One operation on the buffers of a pool. -/
inductive Op
  | create (size : Nat)
  | copyOf (bytes : List UInt8)
  | borrow (bytes : List UInt8)
  | empty
  | take (i : Nat)
  | copySlot (i : Nat)
  | release (i : Nat)
  | drop (i : Nat)
  | write (i : Nat) (offset : Nat) (patch : List UInt8)
  deriving DecidableEq, Repr

/-- What an operation answers. -/
inductive Answer
  | slot (i : Nat)
  | done
  | written (count : Option Nat)
  | noSlot
  deriving DecidableEq, Repr

namespace Pool

/-- One operation and its answer. A slot that is not live answers `noSlot`. -/
def step (grants : Grants) (p : Pool) : Op → Pool × Answer
  | .create size => (p.create grants size, .slot p.slots.length)
  | .copyOf bytes => (p.allocate grants bytes, .slot p.slots.length)
  | .borrow bytes => (p.add (Buffer.borrowed bytes), .slot p.slots.length)
  | .empty => (p.add Buffer.empty, .slot p.slots.length)
  | .take i =>
    match p.get? i with
    | none => (p, .noSlot)
    | some b => ((p.put i (some Buffer.empty)).add b, .slot p.slots.length)
  | .copySlot i =>
    match p.get? i with
    | none => (p, .noSlot)
    | some b => (p.allocate grants b.bytes, .slot p.slots.length)
  | .release i =>
    match p.get? i with
    | none => (p, .noSlot)
    | some b => ((p.free b).put i (some Buffer.empty), .done)
  | .drop i =>
    match p.get? i with
    | none => (p, .noSlot)
    | some b => ((p.free b).put i none, .done)
  | .write i offset patch =>
    match p.get? i with
    | none => (p, .noSlot)
    | some b =>
      match b.write? offset patch with
      | none => (p, .written none)
      | some (b, count) => (p.put i (some b), .written (some count))

/-- The pool after operations in a row. -/
def run (grants : Grants) (p : Pool) (ops : List Op) : Pool :=
  ops.foldl (fun p op => (p.step grants op).1) p

end Pool

end DeviceLink.Buffer
