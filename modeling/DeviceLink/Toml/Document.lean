import DeviceLink.Number.Double
/-!
# TOML documents

The values of a document and how its statements build it. A table knows where it comes from,
since that decides which later statements may add to it. Entries stand in the order of their
statements; a table that was only implied so far moves to the place of its own header.
-/

namespace DeviceLink.Toml

/-- Where a table comes from. -/
inductive Form
  /-- Its own header, or a row of an array of tables. -/
  | header
  /-- The header of a table inside it. -/
  | implied
  /-- A dotted key. -/
  | dotted
  /-- Braces. -/
  | inline
  /-- A dotted key between braces. -/
  | inlineDotted
  deriving DecidableEq, Repr, Inhabited

/-- A value of a document. -/
inductive Item
  | string (s : String)
  | integer (n : Int)
  | float (d : Double)
  | boolean (b : Bool)
  | datetime (text : String)
  | array (elements : List Item)
  | table (form : Form) (entries : List (String × Item))
  /-- An array of tables, one for each of its headers. -/
  | tables (rows : List (List (String × Item)))
  deriving Repr, Inhabited

/-- The entries of a table, in order. -/
abbrev Entries := List (String × Item)

/-- A statement of a document. Keys may be dotted: the path leads to the table meant. -/
inductive Statement
  | entry (path : List String) (key : String) (value : Item)
  | header (path : List String) (key : String)
  | rowHeader (path : List String) (key : String)
  deriving Repr

namespace Form

/-- The table made on the way for a dotted key in a table of this form. -/
def child : Form → Form
  | header | implied | dotted => dotted
  | inline | inlineDotted => inlineDotted

/-- Whether a table was made by a dotted key. -/
def isDotted : Form → Bool
  | dotted | inlineDotted => true
  | header | implied | inline => false

/-- Whether the path of a header may lead through a table. -/
def opensToHeader : Form → Bool
  | header | implied | dotted => true
  | inline | inlineDotted => false

/-- Whether a dotted key may lead through a table. -/
def opensToKey : Form → Bool
  | implied | dotted | inlineDotted => true
  | header | inline => false

end Form

namespace Entries

/-- An entry replaced in place, or put at the end. -/
def put (key : String) (item : Item) : Entries → Entries
  | [] => [(key, item)]
  | (k, old) :: rest => if k = key then (k, item) :: rest else (k, old) :: put key item rest

/-- The entries without one. -/
def erase (es : Entries) (key : String) : Entries := List.filter (fun e => e.1 ≠ key) es

/-- A change to the table a path leads to, and what the change yields. Missing tables on the
way are made in the form `made`; `opens` says which may be passed through. Of an array of
tables it is the last row. -/
def descend {α : Type} (made : Form) (opens : Form → Bool)
    (change : Form → Entries → Option (Entries × α)) :
    List String → Form → Entries → Option (Entries × α)
  | [], form, es => change form es
  | key :: path, _, es =>
    match List.lookup key es with
    | none => do
      let (inner, a) ← descend made opens change path made []
      pure (put key (.table made inner) es, a)
    | some (.table form inner) =>
      if opens form then do
        let (inner, a) ← descend made opens change path form inner
        pure (put key (.table form inner) es, a)
      else none
    | some (.tables rows) => do
      let last ← rows.getLast?
      let (last, a) ← descend made opens change path .header last
      pure (put key (.tables (rows.dropLast ++ [last])) es, a)
    | some _ => none

/-- A new entry in the table that a dotted key leads to. Only a table made by dotted keys
takes entries from one. -/
def addEntry (form : Form) (path : List String) (key : String) (value : Item) (es : Entries) :
    Option Entries :=
  let add (reached : Form) (es : Entries) : Option (Entries × Unit) :=
    if reached.isDotted = path.isEmpty then none
    else if (List.lookup key es).isSome then none
    else some (es ++ [(key, value)], ())
  (descend form.child Form.opensToKey add path form es).map (·.1)

/-- The entries between braces. -/
def ofInline (fields : List (List String × String × Item)) : Option Entries :=
  fields.foldlM (fun es (path, key, value) => addEntry .inline path key value es) []

end Entries

/-- A document that is being read: the tables closed so far, and the open one with the path
that leads to it. An empty path means the top. -/
structure Building where
  closed : Entries := []
  path : List String := []
  key : String := ""
  /-- Whether the open table is the top, a table or a row. -/
  place : Option Bool := none
  entries : Entries := []
  deriving Repr

namespace Building

/-- The document with the open table put in its place. -/
def close (b : Building) : Option Entries :=
  match b.place with
  | none => some b.entries
  | some isRow =>
    let add (_ : Form) (es : Entries) : Option (Entries × Unit) :=
      match isRow, List.lookup b.key es with
      | false, none => some (es ++ [(b.key, .table .header b.entries)], ())
      | true, none => some (es ++ [(b.key, .tables [b.entries])], ())
      | true, some (.tables rows) =>
        some (Entries.put b.key (.tables (rows ++ [b.entries])) es, ())
      | _, _ => none
    (Entries.descend .implied Form.opensToHeader add b.path .header b.closed).map (·.1)

/-- A table opened by its header. One that was only implied so far is taken up again. -/
def openTable (closed : Entries) (path : List String) (key : String) : Option Building := do
  let take (_ : Form) (es : Entries) : Option (Entries × Entries) :=
    match List.lookup key es with
    | none => some (es, [])
    | some (.table .implied inner) => some (Entries.erase es key, inner)
    | some _ => none
  let (closed, entries) ← Entries.descend .implied Form.opensToHeader take path .header closed
  pure { closed, path, key, place := some false, entries }

/-- A row opened by its header. -/
def openRow (closed : Entries) (path : List String) (key : String) : Option Building := do
  let look (_ : Form) (es : Entries) : Option (Entries × Unit) :=
    match List.lookup key es with
    | none | some (.tables _) => some (es, ())
    | some _ => none
  let (closed, _) ← Entries.descend .implied Form.opensToHeader look path .header closed
  pure { closed, path, key, place := some true }

/-- The document after a statement, if the statement fits. -/
def step (b : Building) : Statement → Option Building
  | .entry path key value => do
    let entries ← Entries.addEntry .header path key value b.entries
    pure { b with entries }
  | .header path key => do openTable (← b.close) path key
  | .rowHeader path key => do openRow (← b.close) path key

end Building

/-- The document that statements build, if they fit together. -/
def Entries.ofStatements (statements : List Statement) : Option Entries := do
  let b ← statements.foldlM Building.step {}
  b.close

end DeviceLink.Toml
