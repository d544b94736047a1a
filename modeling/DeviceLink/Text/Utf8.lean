/-!
# Text as bytes

A byte string read as UTF-8. `scan` cuts it into chunks, one per character or per
maximal ill-formed piece, octet by octet; `decode` accepts it only if every chunk is a
character, and `decodeLossy` puts U+FFFD in the place of each other chunk.
-/

namespace DeviceLink.Utf8

/-- A piece of a byte string, with the number of bytes it takes. -/
inductive Chunk
  | char (c : Char) (width : Nat)
  /-- Bytes that start no character, cut off where they stop being the start of one. -/
  | illFormed (width : Nat)
  /-- The start of a character that the end of the input cuts off. -/
  | truncated (width : Nat)
  deriving DecidableEq, Repr

/-- The number of bytes of a chunk. -/
def Chunk.width : Chunk → Nat
  | .char _ w | .illFormed w | .truncated w => w

/-- A character begun: the bytes read, the bytes owed, the range of the next byte, and the
value of the bits so far. -/
structure Pending where
  seen : Nat
  owed : Nat
  low : Nat
  high : Nat
  bits : Nat
  deriving DecidableEq, Repr

/-- What the first byte of a character says. The narrower ranges after `E0`, `ED`, `F0` and
`F4` shut out overlong forms, surrogates and values above U+10FFFF. -/
def lead (b : Nat) : List Chunk × Option Pending :=
  if b < 0x80 then ([.char (Char.ofNat b) 1], none)
  else if 0xC2 ≤ b ∧ b ≤ 0xDF then ([], some ⟨1, 1, 0x80, 0xBF, b - 0xC0⟩)
  else if b = 0xE0 then ([], some ⟨1, 2, 0xA0, 0xBF, 0⟩)
  else if b = 0xED then ([], some ⟨1, 2, 0x80, 0x9F, 0xD⟩)
  else if 0xE1 ≤ b ∧ b ≤ 0xEF then ([], some ⟨1, 2, 0x80, 0xBF, b - 0xE0⟩)
  else if b = 0xF0 then ([], some ⟨1, 3, 0x90, 0xBF, 0⟩)
  else if 0xF1 ≤ b ∧ b ≤ 0xF3 then ([], some ⟨1, 3, 0x80, 0xBF, b - 0xF0⟩)
  else if b = 0xF4 then ([], some ⟨1, 3, 0x80, 0x8F, 4⟩)
  else ([.illFormed 1], none)

/-- One byte: the chunks it completes and the character it leaves begun. A byte that cannot
go on with the begun character ends that one as ill-formed and is read afresh. -/
def step : Option Pending → Nat → List Chunk × Option Pending
  | none, b => lead b
  | some p, b =>
    if p.low ≤ b ∧ b ≤ p.high then
      let bits := p.bits * 64 + b % 64
      if p.owed = 1 then ([.char (Char.ofNat bits) (p.seen + 1)], none)
      else ([], some ⟨p.seen + 1, p.owed - 1, 0x80, 0xBF, bits⟩)
    else
      let (chunks, next) := lead b
      (.illFormed p.seen :: chunks, next)

/-- The chunks of the bytes that follow a begun character, if there is one. -/
def scanFrom : Option Pending → List UInt8 → List Chunk
  | none, [] => []
  | some p, [] => [.truncated p.seen]
  | state, b :: rest =>
    let (chunks, next) := step state b.toNat
    chunks ++ scanFrom next rest

/-- The chunks of a byte string, in order. -/
def scan (bytes : List UInt8) : List Chunk := scanFrom none bytes

/-- Why bytes are not text, with the offset of the first byte at fault. -/
inductive DecodeError
  | illFormed (width : Nat) (offset : Nat)
  | truncated (offset : Nat)
  deriving DecidableEq, Repr

/-- The wording of a decode error. -/
def DecodeError.message : DecodeError → String
  | .illFormed width offset =>
    s!"invalid utf-8 sequence of {width} bytes from index {offset}"
  | .truncated offset => s!"incomplete utf-8 byte sequence from index {offset}"

/-- The characters of the chunks, or the first chunk that is none. -/
def collect (offset : Nat) : List Chunk → Except DecodeError (List Char)
  | [] => .ok []
  | .char c width :: rest => (collect (offset + width) rest).map (c :: ·)
  | .illFormed width :: _ => .error (.illFormed width offset)
  | .truncated _ :: _ => .error (.truncated offset)

/-- The text that the bytes spell. -/
def decode (bytes : List UInt8) : Except DecodeError String :=
  (collect 0 (scan bytes)).map String.ofList

/-- The text that the bytes spell, or nothing. -/
def decode? (bytes : List UInt8) : Option String := (decode bytes).toOption

/-- The character shown for a chunk in a lossy reading. -/
def Chunk.shown : Chunk → Char
  | .char c _ => c
  | .illFormed _ | .truncated _ => '\uFFFD'

/-- The text that the bytes spell, with U+FFFD for each piece that is not a character. -/
def decodeLossy (bytes : List UInt8) : String :=
  String.ofList ((scan bytes).map Chunk.shown)

/-- The bytes of a text. -/
def encode (s : String) : List UInt8 := s.toList.flatMap String.utf8EncodeChar

/-- The bytes before the first zero byte. -/
def untilZero (bytes : List UInt8) : List UInt8 := bytes.takeWhile (· ≠ 0)

end DeviceLink.Utf8
