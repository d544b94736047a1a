import DeviceLink.Json.Value
import DeviceLink.Number.Scaled
import DeviceLink.Text.Utf8
/-!
# Reading JSON

The strict grammar: blanks between tokens, no trailing data, no more than `maxNesting`
levels, the last of several equal keys. Each reader takes what it needs from the front and
returns the rest. The readers that call each other are bounded by the length of the text.
-/

namespace DeviceLink.Json

/-- The deepest nesting that is read. -/
def maxNesting : Nat := 127

/-- The text without the blanks at its front. -/
def skipBlanks : List Char → List Char
  | c :: rest => if c = ' ' ∨ c = '\t' ∨ c = '\n' ∨ c = '\r' then skipBlanks rest else c :: rest
  | [] => []

/-- The value of a hexadecimal digit, in either case. -/
def hexDigit? (c : Char) : Option Nat :=
  if '0' ≤ c ∧ c ≤ '9' then some (c.toNat - '0'.toNat)
  else if 'a' ≤ c ∧ c ≤ 'f' then some (c.toNat - 'a'.toNat + 10)
  else if 'A' ≤ c ∧ c ≤ 'F' then some (c.toNat - 'A'.toNat + 10)
  else none

/-- The number of four hexadecimal digits. -/
def hex4? (a b c d : Char) : Option Nat := do
  let a ← hexDigit? a
  let b ← hexDigit? b
  let c ← hexDigit? c
  let d ← hexDigit? d
  pure (((a * 16 + b) * 16 + c) * 16 + d)

/-- The character of a short escape. -/
def shortEscape? : Char → Option Char
  | '"' => some '"'
  | '\\' => some '\\'
  | '/' => some '/'
  | 'b' => some '\x08'
  | 'f' => some '\x0c'
  | 'n' => some '\n'
  | 'r' => some '\r'
  | 't' => some '\t'
  | _ => none

/-- Whether a 16-bit unit is the first of a surrogate pair. -/
def isHighSurrogate (u : Nat) : Bool := 0xD800 ≤ u ∧ u ≤ 0xDBFF

/-- Whether a 16-bit unit is the second of a surrogate pair. -/
def isLowSurrogate (u : Nat) : Bool := 0xDC00 ≤ u ∧ u ≤ 0xDFFF

/-- The character of a surrogate pair. -/
def ofSurrogates (high low : Nat) : Char :=
  Char.ofNat (0x10000 + (high - 0xD800) * 0x400 + (low - 0xDC00))

/-- The characters up to the closing quote, and what follows it. -/
def readString : List Char → Option (List Char × List Char)
  | '"' :: rest => some ([], rest)
  | '\\' :: 'u' :: a :: b :: c :: d :: rest => do
    let unit ← hex4? a b c d
    if isLowSurrogate unit then none
    else if isHighSurrogate unit then
      match rest with
      | '\\' :: 'u' :: a :: b :: c :: d :: rest =>
        let low ← hex4? a b c d
        if isLowSurrogate low then
          let (cs, rest) ← readString rest
          pure (ofSurrogates unit low :: cs, rest)
        else none
      | _ => none
    else
      let (cs, rest) ← readString rest
      pure (Char.ofNat unit :: cs, rest)
  | '\\' :: c :: rest => do
    let c ← shortEscape? c
    let (cs, rest) ← readString rest
    pure (c :: cs, rest)
  | c :: rest =>
    if c.toNat < 0x20 ∨ c = '\\' then none
    else do
      let (cs, rest) ← readString rest
      pure (c :: cs, rest)
  | [] => none

/-- The number that digits spell. -/
def digitsValue (digits : List Char) : Nat :=
  digits.foldl (fun n c => n * 10 + (c.toNat - '0'.toNat)) 0

/-- The digits at the front, and what follows them. -/
def readDigits (cs : List Char) : List Char × List Char :=
  (cs.takeWhile Char.isDigit, cs.dropWhile Char.isDigit)

/-- The digits before the point: a lone zero, or digits that start with another one. -/
def readWhole (cs : List Char) : Option (List Char × List Char) :=
  match readDigits cs with
  | ([], _) => none
  | ('0' :: _ :: _, _) => none
  | found => some found

/-- The digits after a point, if there is one; a point without digits is refused. -/
def readFraction : List Char → Option (Option (List Char) × List Char)
  | '.' :: rest =>
    match readDigits rest with
    | ([], _) => none
    | (digits, rest) => some (some digits, rest)
  | rest => some (none, rest)

/-- The exponent, if there is one; a mark without digits is refused. -/
def readExponent : List Char → Option (Option Int × List Char)
  | c :: rest =>
    if c = 'e' ∨ c = 'E' then
      let (negative, rest) :=
        match rest with
        | '-' :: rest => (true, rest)
        | '+' :: rest => (false, rest)
        | rest => (false, rest)
      match readDigits rest with
      | ([], _) => none
      | (digits, rest) =>
        let power : Int := digitsValue digits
        some (some (if negative then -power else power), rest)
    else some (none, c :: rest)
  | [] => some (none, [])

/-- Digits put behind a significand as far as it stays an integer of 64 bits: the significand,
and how many digits are left. -/
def absorb (significand : Nat) : List Char → Nat × Nat
  | [] => (significand, 0)
  | c :: rest =>
    let longer := significand * 10 + (c.toNat - '0'.toNat)
    if (longer : Int) ≤ maxInt then absorb longer rest else (significand, rest.length + 1)

/-- The value of a number: an integer where it has neither point nor exponent and 64 bits hold
it, else a double. Minus zero is a double. Digits that the significand has no room for count by
their places alone, and behind the point not even by those. -/
def ofDigits (negative : Bool) (whole : List Char) (fraction : Option (List Char))
    (power : Option Int) : Option Value :=
  let (n, left) := absorb 0 whole
  let value : Int := if negative then -(n : Int) else n
  if fraction.isNone ∧ power.isNone ∧ left = 0 ∧ minInt ≤ value ∧ ¬(negative ∧ n = 0) then
    some (.int value)
  else
    let digits := fraction.getD []
    let (significand, beyond) := absorb n digits
    let places : Int := digits.length - beyond
    (Double.ofScaled negative significand (power.getD 0 + left - places)).map .double

/-- A number. -/
def readNumber (cs : List Char) : Option (Value × List Char) := do
  let (negative, cs) :=
    match cs with
    | '-' :: cs => (true, cs)
    | cs => (false, cs)
  let (whole, cs) ← readWhole cs
  let (fraction, cs) ← readFraction cs
  let (power, cs) ← readExponent cs
  let v ← ofDigits negative whole fraction power
  pure (v, cs)

/-- The rest after a word that must stand at the front. -/
def readWord (word : List Char) (cs : List Char) : Option (List Char) :=
  if cs.take word.length = word then some (cs.drop word.length) else none

mutual

/-- A value, in front of which blanks may stand. -/
def readValue (fuel levels : Nat) (cs : List Char) : Option (Value × List Char) :=
  match fuel with
  | 0 => none
  | fuel + 1 =>
    match skipBlanks cs with
    | 'n' :: rest => (readWord "ull".toList rest).map (.null, ·)
    | 't' :: rest => (readWord "rue".toList rest).map (.bool true, ·)
    | 'f' :: rest => (readWord "alse".toList rest).map (.bool false, ·)
    | '"' :: rest => (readString rest).map fun (s, rest) => (.string (String.ofList s), rest)
    | '[' :: rest =>
      match levels with
      | 0 => none
      | levels + 1 =>
        match skipBlanks rest with
        | ']' :: rest => some (.array [], rest)
        | rest => (readElements fuel levels rest).map fun (vs, rest) => (.array vs, rest)
    | '\x7b' :: rest =>
      match levels with
      | 0 => none
      | levels + 1 =>
        match skipBlanks rest with
        | '\x7d' :: rest => some (.object [], rest)
        | rest => (readFields fuel levels rest).map fun (fs, rest) => (Value.ofFields fs, rest)
    | cs => readNumber cs

/-- Elements up to the closing bracket. -/
def readElements (fuel levels : Nat) (cs : List Char) : Option (List Value × List Char) :=
  match fuel with
  | 0 => none
  | fuel + 1 => do
    let (v, cs) ← readValue fuel levels cs
    match skipBlanks cs with
    | ',' :: cs =>
      let (vs, cs) ← readElements fuel levels cs
      pure (v :: vs, cs)
    | ']' :: cs => pure ([v], cs)
    | _ => none

/-- Fields up to the closing brace, in the order they stand. -/
def readFields (fuel levels : Nat) (cs : List Char) : Option (List (String × Value) × List Char) :=
  match fuel with
  | 0 => none
  | fuel + 1 =>
    match skipBlanks cs with
    | '"' :: cs => do
      let (key, cs) ← readString cs
      match skipBlanks cs with
      | ':' :: cs =>
        let (v, cs) ← readValue fuel levels cs
        let field := (String.ofList key, v)
        match skipBlanks cs with
        | ',' :: cs =>
          let (fs, cs) ← readFields fuel levels cs
          pure (field :: fs, cs)
        | '\x7d' :: cs => pure ([field], cs)
        | _ => none
      | _ => none
    | _ => none

end

/-- The value of a text that nests at most `levels` levels, with nothing but blanks around
it. -/
def readWithin (levels : Nat) (cs : List Char) : Option Value :=
  match readValue (cs.length + 1) levels cs with
  | some (v, rest) => if skipBlanks rest = [] then some v else none
  | none => none

/-- The value that a text spells. -/
def Value.parse? (s : String) : Option Value := readWithin maxNesting s.toList

/-- The value that bytes spell. -/
def Value.ofBytes? (bytes : List UInt8) : Option Value := do
  let s ← Utf8.decode? bytes
  Value.parse? s

end DeviceLink.Json
