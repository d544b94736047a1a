import DeviceLink.Toml.Document
/-!
# Reading TOML scalars

Keys, strings, numbers, dates and times, each read from the front of a text. A reader gives
what it has read and the rest, or nothing where the text does not fit.
-/

namespace DeviceLink.Toml

/-- A space or a tab. -/
def isBlank (c : Char) : Bool := c = ' ' || c = '\t'

/-- A character that stands for itself in comments and strings: a tab or no control. -/
def isPlain (c : Char) : Bool := c = '\t' || (0x20 ≤ c.toNat && c.toNat ≠ 0x7F)

/-- The text without the blanks at its front. -/
def skipBlanks (cs : List Char) : List Char := cs.dropWhile isBlank

/-- The text after the line break at its front. -/
def newline? : List Char → Option (List Char)
  | '\n' :: rest => some rest
  | '\r' :: '\n' :: rest => some rest
  | _ => none

/-! ## Strings -/

/-- A hexadecimal digit. -/
def hexDigit? (c : Char) : Option Nat :=
  if '0' ≤ c ∧ c ≤ '9' then some (c.toNat - '0'.toNat)
  else if 'a' ≤ c ∧ c ≤ 'f' then some (c.toNat - 'a'.toNat + 10)
  else if 'A' ≤ c ∧ c ≤ 'F' then some (c.toNat - 'A'.toNat + 10)
  else none

/-- The character with a number in hexadecimal digits; surrogates are none. -/
def charOfHex (digits : List Char) : Option Char := do
  let values ← digits.mapM hexDigit?
  let n := values.foldl (fun n d => n * 16 + d) 0
  if n < 0xD800 ∨ (0xDFFF < n ∧ n < 0x110000) then some (Char.ofNat n) else none

/-- The character of an escape, after its backslash. -/
def readEscape : List Char → Option (Char × List Char)
  | 'b' :: rest => some ('\x08', rest)
  | 't' :: rest => some ('\t', rest)
  | 'n' :: rest => some ('\n', rest)
  | 'f' :: rest => some ('\x0c', rest)
  | 'r' :: rest => some ('\r', rest)
  | '"' :: rest => some ('"', rest)
  | '\\' :: rest => some ('\\', rest)
  | 'u' :: rest =>
    if rest.length < 4 then none else (charOfHex (rest.take 4)).map (·, rest.drop 4)
  | 'U' :: rest =>
    if rest.length < 8 then none else (charOfHex (rest.take 8)).map (·, rest.drop 8)
  | _ => none

/-- The characters up to the closing quote. -/
def readBasic (fuel : Nat) (cs : List Char) : Option (List Char × List Char) :=
  match fuel, cs with
  | _, '"' :: rest => some ([], rest)
  | fuel + 1, '\\' :: rest => do
    let (c, rest) ← readEscape rest
    let (cs, rest) ← readBasic fuel rest
    pure (c :: cs, rest)
  | fuel + 1, c :: rest =>
    if isPlain c then (readBasic fuel rest).map fun (cs, rest) => (c :: cs, rest) else none
  | _, _ => none

/-- The characters up to the closing apostrophe. -/
def readLiteral : List Char → Option (List Char × List Char)
  | '\'' :: rest => some ([], rest)
  | c :: rest =>
    if isPlain c then (readLiteral rest).map fun (cs, rest) => (c :: cs, rest) else none
  | [] => none

/-- The marks of a closing triple at the front: how many stand before the last three, two at
most, and the rest. -/
def closingTriple (mark : Char) : List Char → Option (List Char × List Char)
  | a :: b :: c :: rest =>
    if a = mark ∧ b = mark ∧ c = mark then
      let extra := (rest.take 2).takeWhile (· = mark)
      some (extra, rest.drop extra.length)
    else none
  | _ => none

/-- The text after the blanks and line breaks at its front. -/
def skipSpace : List Char → List Char
  | '\r' :: '\n' :: rest => skipSpace rest
  | c :: rest => if isBlank c ∨ c = '\n' then skipSpace rest else c :: rest
  | [] => []

/-- The characters up to a closing triple of quotes. A backslash at the end of a line hides
the line break and the space after it. -/
def readMultiBasic (fuel : Nat) (cs : List Char) : Option (List Char × List Char) :=
  match fuel with
  | 0 => none
  | fuel + 1 =>
    match closingTriple '"' cs with
    | some found => some found
    | none =>
      match cs with
      | '\\' :: rest =>
        match newline? (skipBlanks rest) with
        | some rest => readMultiBasic fuel (skipSpace rest)
        | none => do
          let (c, rest) ← readEscape rest
          let (cs, rest) ← readMultiBasic fuel rest
          pure (c :: cs, rest)
      | c :: rest =>
        match newline? (c :: rest) with
        | some rest => (readMultiBasic fuel rest).map fun (cs, rest) => ('\n' :: cs, rest)
        | none =>
          if isPlain c then
            (readMultiBasic fuel rest).map fun (cs, rest) => (c :: cs, rest)
          else none
      | [] => none

/-- The characters up to a closing triple of apostrophes. -/
def readMultiLiteral (fuel : Nat) (cs : List Char) : Option (List Char × List Char) :=
  match fuel with
  | 0 => none
  | fuel + 1 =>
    match closingTriple '\'' cs with
    | some found => some found
    | none =>
      match newline? cs, cs with
      | some rest, _ => (readMultiLiteral fuel rest).map fun (cs, rest) => ('\n' :: cs, rest)
      | none, c :: rest =>
        if isPlain c then
          (readMultiLiteral fuel rest).map fun (cs, rest) => (c :: cs, rest)
        else none
      | none, [] => none

/-- The text after a line break that stands right after an opening triple. -/
def skipFirstBreak (cs : List Char) : List Char := (newline? cs).getD cs

/-- A string of one line, as it may stand in a key. -/
def readLine : List Char → Option (String × List Char)
  | '"' :: rest =>
    (readBasic rest.length rest).map fun (cs, rest) => (String.ofList cs, rest)
  | '\'' :: rest => (readLiteral rest).map fun (cs, rest) => (String.ofList cs, rest)
  | _ => none

/-- A string in any of its four spellings. -/
def readString : List Char → Option (String × List Char)
  | '"' :: '"' :: '"' :: rest =>
    let body := skipFirstBreak rest
    (readMultiBasic (body.length + 1) body).map fun (cs, rest) => (String.ofList cs, rest)
  | '\'' :: '\'' :: '\'' :: rest =>
    let body := skipFirstBreak rest
    (readMultiLiteral (body.length + 1) body).map fun (cs, rest) => (String.ofList cs, rest)
  | cs => readLine cs

/-! ## Keys -/

/-- A character of a key without quotes. -/
def isBare (c : Char) : Bool := c.isAlphanum || c = '-' || c = '_'

/-- One part of a key. -/
def readPart (cs : List Char) : Option (String × List Char) :=
  match cs with
  | '"' :: _ | '\'' :: _ => readLine cs
  | _ =>
    match cs.takeWhile isBare with
    | [] => none
    | part => some (String.ofList part, cs.dropWhile isBare)

/-- The parts of a key, with dots between and blanks around each. -/
def readParts (fuel : Nat) (cs : List Char) : Option (List String × List Char) :=
  match fuel with
  | 0 => none
  | fuel + 1 => do
    let (part, rest) ← readPart (skipBlanks cs)
    match skipBlanks rest with
    | '.' :: rest =>
      let (parts, rest) ← readParts fuel rest
      pure (part :: parts, rest)
    | rest => pure ([part], rest)

/-- Keys have fewer parts than this, and values nest less deeply. -/
def maxDepth : Nat := 80

/-- A key: the path to its table, and its last part. -/
def readKey (cs : List Char) : Option ((List String × String) × List Char) := do
  let (parts, rest) ← readParts (maxDepth - 1) cs
  let key ← parts.getLast?
  pure ((parts.dropLast, key), rest)

/-! ## Numbers -/

/-- Whether a character is a digit of a base up to sixteen. -/
def isDigitOf (base : Nat) (c : Char) : Bool :=
  match hexDigit? c with
  | some d => d < base
  | none => false

/-- More digits; an underscore stands between two digits only. -/
def readMore (base : Nat) : List Char → Option (List Char × List Char)
  | '_' :: c :: rest =>
    if isDigitOf base c then (readMore base rest).map fun (ds, rest) => (c :: ds, rest) else none
  | ['_'] => none
  | c :: rest =>
    if isDigitOf base c then (readMore base rest).map fun (ds, rest) => (c :: ds, rest)
    else some ([], c :: rest)
  | [] => some ([], [])

/-- At least one digit. -/
def readDigits (base : Nat) : List Char → Option (List Char × List Char)
  | c :: rest =>
    if isDigitOf base c then (readMore base rest).map fun (ds, rest) => (c :: ds, rest) else none
  | [] => none

/-- The number that digits of a base spell. -/
def digitsValue (base : Nat) (digits : List Char) : Nat :=
  digits.foldl (fun n c => n * base + (hexDigit? c).getD 0) 0

/-- A sign, if there is one, and whether it is a minus. -/
def readSign : List Char → Bool × List Char
  | '-' :: rest => (true, rest)
  | '+' :: rest => (false, rest)
  | rest => (false, rest)

/-- An integer of 64 bits. -/
def integer? (negative : Bool) (n : Nat) : Option Item :=
  let value : Int := if negative then -n else n
  if -0x8000000000000000 ≤ value ∧ value < 0x8000000000000000 then some (.integer value) else none

/-- The digits before a point: a lone zero, or digits that start with another one. -/
def readWhole : List Char → Option (List Char × List Char)
  | '0' :: rest => some (['0'], rest)
  | cs => readDigits 10 cs

/-- The digits after a point, none without a point. -/
def readFraction : List Char → Option (Option (List Char) × List Char)
  | '.' :: rest => (readDigits 10 rest).map fun (ds, rest) => (some ds, rest)
  | rest => some (none, rest)

/-- An exponent, if there is one. -/
def readExponent : List Char → Option (Option Int × List Char)
  | c :: rest =>
    if c = 'e' ∨ c = 'E' then
      let (negative, rest) := readSign rest
      (readDigits 10 rest).map fun (ds, rest) =>
        let power : Int := digitsValue 10 ds
        (some (if negative then -power else power), rest)
    else some (none, c :: rest)
  | [] => some (none, [])

/-- The double of a decimal. Below the least one stands minus infinity; a number beyond the
greatest one is refused. -/
def float? (negative : Bool) (digits : Nat) (power : Int) : Option Double :=
  match Double.ofDecimal negative digits power with
  | some d => some d
  | none => if negative then some (Double.infinity true) else none

/-- A decimal number: an integer without point and exponent, else a double. -/
def readDecimal (negative : Bool) (cs : List Char) : Option (Item × List Char) := do
  let (whole, cs) ← readWhole cs
  let (fraction, cs) ← readFraction cs
  let (power, cs) ← readExponent cs
  match fraction, power with
  | none, none => (integer? negative (digitsValue 10 whole)).map (·, cs)
  | _, _ =>
    let fraction := fraction.getD []
    let d ← float? negative (digitsValue 10 (whole ++ fraction))
      (power.getD 0 - fraction.length)
    pure (.float d, cs)

/-- An integer in a base that its prefix tells. -/
def readBased (base : Nat) (cs : List Char) : Option (Item × List Char) := do
  let (digits, cs) ← readDigits base cs
  let n ← integer? false (digitsValue base digits)
  pure (n, cs)

/-- A number, with a sign or a base or neither. -/
def readNumber (cs : List Char) : Option (Item × List Char) :=
  match cs with
  | '0' :: 'x' :: rest => readBased 16 rest
  | '0' :: 'o' :: rest => readBased 8 rest
  | '0' :: 'b' :: rest => readBased 2 rest
  | _ =>
    match readSign cs with
    | (negative, 'i' :: 'n' :: 'f' :: rest) => some (.float (Double.infinity negative), rest)
    | (_, 'n' :: 'a' :: 'n' :: rest) => some (.float Double.nan, rest)
    | (negative, rest) => readDecimal negative rest

/-! ## Dates and times -/

/-- A number of a fixed count of decimal digits. -/
def readFixed (count : Nat) (cs : List Char) : Option (Nat × List Char) :=
  let digits := cs.take count
  if digits.length = count ∧ digits.all Char.isDigit then
    some (digitsValue 10 digits, cs.drop count)
  else none

/-- A number of two digits within bounds. -/
def readTwo (low high : Nat) (cs : List Char) : Option (Nat × List Char) := do
  let (n, rest) ← readFixed 2 cs
  if low ≤ n ∧ n ≤ high then pure (n, rest) else none

/-- The rest after a character that must stand at the front. -/
def expect (c : Char) : List Char → Option (List Char)
  | d :: rest => if d = c then some rest else none
  | [] => none

/-- The number of days of a month. -/
def daysIn (year month : Nat) : Nat :=
  if month = 2 then
    if year % 4 = 0 ∧ (year % 100 ≠ 0 ∨ year % 400 = 0) then 29 else 28
  else if month = 4 ∨ month = 6 ∨ month = 9 ∨ month = 11 then 30
  else 31

/-- The text after a date. -/
def skipDate (cs : List Char) : Option (List Char) := do
  let (year, cs) ← readFixed 4 cs
  let (month, cs) ← readTwo 1 12 (← expect '-' cs)
  let (_, cs) ← readTwo 1 (daysIn year month) (← expect '-' cs)
  pure cs

/-- The text after a time of day. -/
def skipTime (cs : List Char) : Option (List Char) := do
  let (_, cs) ← readTwo 0 23 cs
  let (_, cs) ← readTwo 0 59 (← expect ':' cs)
  let (_, cs) ← readTwo 0 60 (← expect ':' cs)
  match cs with
  | '.' :: rest =>
    if (rest.takeWhile Char.isDigit).isEmpty then pure cs else pure (rest.dropWhile Char.isDigit)
  | _ => pure cs

/-- The text after an offset from UTC, if there is one. -/
def skipOffset (cs : List Char) : List Char :=
  match cs with
  | c :: rest =>
    if c = 'Z' ∨ c = 'z' then rest
    else if c = '+' ∨ c = '-' then
      let after : Option (List Char) := do
        let (_, rest) ← readTwo 0 23 rest
        let (_, rest) ← readTwo 0 59 (← expect ':' rest)
        pure rest
      after.getD cs
    else cs
  | [] => []

/-- The text after a date with or without a time, or after a time alone. -/
def skipDatetime (cs : List Char) : Option (List Char) :=
  match skipDate cs with
  | some afterDate =>
    match afterDate with
    | c :: rest =>
      if c = 'T' ∨ c = 't' ∨ c = ' ' then
        match skipTime rest with
        | some rest => some (skipOffset rest)
        | none => some afterDate
      else some afterDate
    | [] => some []
  | none => skipTime cs

/-- A date, a time or both. -/
def readDatetime (cs : List Char) : Option (Item × List Char) :=
  (skipDatetime cs).map fun rest =>
    (.datetime (String.ofList (cs.take (cs.length - rest.length))), rest)

end DeviceLink.Toml
