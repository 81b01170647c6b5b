import ScriptFront.Text.Line
import ScriptFront.Toml.Value

/-!
# TOML documents

A document is a list of statements, one a line: a field, the header of a table, or the header of a
new item of a list of tables. Besides the data a draft of the document remembers which keys may not
be used again.
-/

namespace ScriptFront.Toml

/-- A document under construction. -/
structure Draft where
  fields : Fields := []
  /-- The key of the table that fields are added to. -/
  header : Key := []
  /-- Keys that no header may declare again and no dotted key may pass through. -/
  declared : List Key := []
  /-- Keys of inline values, which are complete. -/
  closed : List Key := []
  /-- Keys that dotted keys of the present table passed through; they become declared at the next
  header. -/
  passed : List Key := []

namespace Draft

/-- Adds a field to the present table. -/
def addField (draft : Draft) (path : Key) (value : Datum) : Except Fault Draft :=
  let inner := (List.range (path.length - 1)).map fun i => draft.header ++ path.take (i + 1)
  if inner.any draft.declared.contains then .error .declaredTwice
  else if isWithin draft.closed (draft.header ++ path.dropLast) then .error .closedNamespace
  else
    match addAt true (draft.header ++ path) value draft.fields with
    | none => .error .overwrittenValue
    | some fields =>
      .ok { draft with
        fields := fields
        passed := inner ++ draft.passed
        closed := if isNested value then (draft.header ++ path) :: draft.closed else draft.closed }

/-- Declares what dotted keys passed through, as a header begins. -/
def beginHeader (draft : Draft) : Draft :=
  { draft with declared := draft.passed ++ draft.declared, passed := [] }

/-- Opens a table. -/
def openTable (draft : Draft) (path : Key) : Except Fault Draft :=
  if draft.declared.contains path || isWithin draft.closed path then .error .declaredTwice
  else
    match Fields.changeAt true some path draft.fields with
    | none => .error .overwrittenValue
    | some fields =>
      .ok { draft with fields := fields, header := path, declared := path :: draft.declared }

/-- Adds an empty table to the list in a field, which is created if need be. -/
def addItem (name : String) (fields : Fields) : Option Fields :=
  match fields.lookup name with
  | none => some (fields.set name (.list [.table []]))
  | some (.list items) => some (fields.set name (.list (items ++ [.table []])))
  | some _ => none

/-- Opens a new item of a list of tables. What was said about keys inside earlier items is
forgotten. -/
def openItem (draft : Draft) (path : Key) : Except Fault Draft :=
  if isWithin draft.closed path then .error .closedNamespace
  else
    match path.getLast? with
    | none => .error .expectedKey
    | some name =>
      match Fields.changeAt true (addItem name) path.dropLast draft.fields with
      | none => .error .overwrittenValue
      | some fields =>
        .ok { draft with
          fields := fields
          header := path
          declared := path :: draft.declared.filter (! path.isPrefixOf ·)
          closed := draft.closed.filter (! path.isPrefixOf ·) }

end Draft

/-- Whether a key can start with a character. -/
def startsKey (c : Char) : Bool :=
  isBareKeyChar c || c == '\x22' || c == '\x27'

/-- Reads one statement, which does not start with a blank, and gives the text after it. A comment
counts as a statement that says nothing. -/
def statement (room : Nat) (draft : Draft) (text : List Char) :
    Except Fault (Draft × List Char) :=
  match text with
  | '[' :: '[' :: rest => do
    let draft := draft.beginHeader
    let (path, rest) ← key (skipBlanks rest)
    let draft ← draft.openItem path
    match rest with
    | ']' :: ']' :: rest => return (draft, rest)
    | _ => .error .expectedBracket
  | '[' :: rest => do
    let draft := draft.beginHeader
    let (path, rest) ← key (skipBlanks rest)
    let draft ← draft.openTable path
    match rest with
    | ']' :: rest => return (draft, rest)
    | _ => .error .expectedBracket
  | '#' :: _ => .ok (draft, text)
  | [] => .ok (draft, text)
  | c :: _ => do
    if startsKey c then
      let (path, rest) ← key text
      let rest ← equalsSign rest
      let (value, rest) ← value room rest
      let draft ← draft.addField path value
      return (draft, rest)
    else .error .invalidStatement

/-- Reads at most `fuel` lines. -/
def statements (room : Nat) : Nat → Draft → List Char → Except Fault Draft
  | 0, _, _ => .error .tooDeep
  | fuel + 1, draft, text =>
    match skipBlanks text with
    | [] => .ok draft
    | '\n' :: rest => statements room fuel draft rest
    | text => do
      let (draft, rest) ← statement room draft text
      match ← skipComment (skipBlanks rest) with
      | [] => .ok draft
      | '\n' :: rest => statements room fuel draft rest
      | _ => .error .expectedLineEnd

/-- A reader of documents, as far as the format leaves it open. -/
structure Reader where
  /-- The room for nested values: how many calls may still be made inside one another where the
  value of a field is read. It depends on the limit that is set for calls, and on how many have been
  made by then. -/
  room : Nat
  /-- How a fault in a text is put into words. -/
  wording : Fault → String → String

/-- The fields of a document. -/
def Reader.read (reader : Reader) (text : String) : Except Fault Fields :=
  let text := Text.joinNewlines text.toList
  (statements reader.room (text.length + 1) {} text).map (·.fields)

end ScriptFront.Toml
