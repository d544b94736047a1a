import DeviceLink.Toml.Scalar
/-!
# Reading TOML

Values, lines and documents. The readers that call each other are bounded by the length of
the text; arrays and inline tables nest less deeply than `maxDepth`.
-/

namespace DeviceLink.Toml

/-- The text after blanks, line breaks and comments, as they may stand in an array. A comment
that its line does not end is left standing. -/
def skipFill (inComment : Bool) : List Char → List Char
  | '\r' :: '\n' :: rest => skipFill false rest
  | c :: rest =>
    if c = '\n' then skipFill false rest
    else if inComment then if isPlain c then skipFill true rest else c :: rest
    else if isBlank c then skipFill false rest
    else if c = '#' then skipFill true rest
    else c :: rest
  | [] => []

/-- The rest after a word that must stand at the front. -/
def readWord (word : List Char) (cs : List Char) : Option (List Char) :=
  if cs.take word.length = word then some (cs.drop word.length) else none

mutual

/-- A value. -/
def readValue (fuel levels : Nat) (cs : List Char) : Option (Item × List Char) :=
  match fuel with
  | 0 => none
  | fuel + 1 =>
    match cs with
    | '"' :: _ | '\'' :: _ => (readString cs).map fun (s, rest) => (.string s, rest)
    | 't' :: rest => (readWord "rue".toList rest).map (.boolean true, ·)
    | 'f' :: rest => (readWord "alse".toList rest).map (.boolean false, ·)
    | '[' :: rest =>
      match levels with
      | 0 => none
      | levels + 1 => (readElements fuel levels rest).map fun (es, rest) => (.array es, rest)
    | '\x7b' :: rest =>
      match levels with
      | 0 => none
      | levels + 1 =>
        match skipBlanks rest with
        | '\x7d' :: rest => some (.table .inline [], rest)
        | rest => do
          let (fields, rest) ← readFields fuel levels rest
          let entries ← Entries.ofInline fields
          pure (.table .inline entries, rest)
    | _ =>
      match readDatetime cs with
      | some found => some found
      | none => readNumber cs

/-- Elements up to the closing bracket; the last may have a comma after it. -/
def readElements (fuel levels : Nat) (cs : List Char) : Option (List Item × List Char) :=
  match fuel with
  | 0 => none
  | fuel + 1 =>
    match skipFill false cs with
    | ']' :: rest => some ([], rest)
    | cs => do
      let (e, rest) ← readValue fuel levels cs
      match skipFill false rest with
      | ',' :: rest =>
        let (es, rest) ← readElements fuel levels rest
        pure (e :: es, rest)
      | ']' :: rest => pure ([e], rest)
      | _ => none

/-- Fields up to the closing brace. -/
def readFields (fuel levels : Nat) (cs : List Char) :
    Option ((List (List String × String × Item)) × List Char) :=
  match fuel with
  | 0 => none
  | fuel + 1 => do
    let ((path, key), rest) ← readKey cs
    let (value, rest) ← readValue fuel levels (skipBlanks (← expect '=' rest))
    match skipBlanks rest with
    | ',' :: rest =>
      let (fields, rest) ← readFields fuel levels rest
      pure ((path, key, value) :: fields, rest)
    | '\x7d' :: rest => pure ([(path, key, value)], rest)
    | _ => none

end

/-- The text after what may end a line: blanks, a comment, and the line break or the end. -/
def endLine (cs : List Char) : Option (List Char) :=
  let rest :=
    match skipBlanks cs with
    | '#' :: rest => rest.dropWhile isPlain
    | rest => rest
  match rest with
  | [] => some []
  | _ => newline? rest

/-- The key of a header up to its closing brackets. -/
def readHeader (closing : List Char) (cs : List Char) : Option ((List String × String) × List Char) := do
  let (key, rest) ← readKey cs
  let rest ← readWord closing rest
  pure (key, rest)

/-- A statement, without the end of its line. -/
def readStatement (cs : List Char) : Option (Statement × List Char) :=
  match cs with
  | '[' :: '[' :: rest =>
    (readHeader [']', ']'] rest).map fun ((path, key), rest) => (.rowHeader path key, rest)
  | '[' :: rest =>
    (readHeader [']'] rest).map fun ((path, key), rest) => (.header path key, rest)
  | _ => do
    let ((path, key), rest) ← readKey cs
    let rest ← expect '=' rest
    let (value, rest) ← readValue (rest.length + 1) (maxDepth - 1) (skipBlanks rest)
    pure (.entry path key value, rest)

/-- The statements of a text, one a line; lines may be empty. -/
def readStatements (fuel : Nat) (cs : List Char) : Option (List Statement) :=
  match fuel with
  | 0 => none
  | fuel + 1 =>
    match skipBlanks cs with
    | [] => some []
    | c :: rest =>
      match endLine (c :: rest) with
      | some rest => readStatements fuel rest
      | none => do
        let (statement, rest) ← readStatement (c :: rest)
        let statements ← readStatements fuel (← endLine rest)
        pure (statement :: statements)

/-- The document that a text spells. A byte order mark may stand before it. -/
def Entries.parse? (text : String) : Option Entries := do
  let cs :=
    match text.toList with
    | '\uFEFF' :: rest => rest
    | cs => cs
  let statements ← readStatements (cs.length + 1) cs
  Entries.ofStatements statements

end DeviceLink.Toml
