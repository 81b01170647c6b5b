import ScriptFront.Toml.Moment
import ScriptFront.Toml.Number

/-!
# Values of TOML

Strings, truth values, arrays, inline tables, dates and times, and numbers. Values nest as long as
there is room for them, which is counted in calls of readers inside one another. Apart from that the
readers count down from the length of the text, which no nesting can exceed.
-/

namespace ScriptFront.Toml

/-- Whether a key has one of the given keys in front. -/
def isWithin (keys : List Key) (key : Key) : Bool :=
  keys.any (·.isPrefixOf key)

/-- Whether a value has parts. -/
def isNested : Datum → Bool
  | .table _ => true
  | .list _ => true
  | _ => false

/-- Sets a new field of a table. -/
def addField (name : String) (value : Datum) (fields : Fields) : Option Fields :=
  match fields.lookup name with
  | none => some (fields.set name value)
  | some _ => none

/-- Sets the field behind a key, which must be new. -/
def addAt (intoLists : Bool) (key : Key) (value : Datum) (fields : Fields) : Option Fields :=
  match key.getLast? with
  | none => none
  | some name => Fields.changeAt intoLists (addField name value) key.dropLast fields

/-- Reads a value without parts. -/
def scalar (text : List Char) : Result Datum :=
  match text with
  | '\x22' :: _ => (anyString text).map fun s => (.text (String.ofList s.1), s.2)
  | '\x27' :: _ => (anyString text).map fun s => (.text (String.ofList s.1), s.2)
  | 't' :: 'r' :: 'u' :: 'e' :: rest => .ok (.bool true, rest)
  | 'f' :: 'a' :: 'l' :: 's' :: 'e' :: rest => .ok (.bool false, rest)
  | _ =>
    match moment? text with
    | .error fault => .error fault
    | .ok (some rest) =>
      .ok (.moment (String.ofList (text.take (text.length - rest.length))), rest)
    | .ok none => number text

/-- Reads the equals sign between a key and its value. -/
def equalsSign : List Char → Except Fault (List Char)
  | '=' :: rest => .ok (skipBlanks rest)
  | _ => .error .expectedEquals

/-- The room that an array takes: the reader of values calls that of arrays, which calls it again
for the items. -/
def arrayRoom : Nat := 2

/-- The room that an inline table takes: its fields have a reader of their own, which calls that of
values. -/
def tableRoom : Nat := 3

/-- The room that is left inside a value. -/
def roomInside (room taken : Nat) : Except Fault Nat :=
  if room < taken then .error .tooDeep else .ok (room - taken)

mutual

/-- Reads a value in some room. -/
def valueWithin : Nat → Nat → List Char → Except Fault (Datum × List Char)
  | 0, _, _ => .error .tooDeep
  | fuel + 1, room, '[' :: rest => do
    let room ← roomInside room arrayRoom
    match ← skipGaps rest with
    | ']' :: rest => return (.list [], rest)
    | rest =>
      let (items, rest) ← itemsWithin fuel room rest
      return (.list items, rest)
  | fuel + 1, room, '\x7b' :: rest => do
    let room ← roomInside room tableRoom
    match skipBlanks rest with
    | '\x7d' :: rest => return (.table [], rest)
    | rest => pairsWithin fuel room [] [] rest
  | _ + 1, _, text => scalar text

/-- Reads the items of an array that is not empty, up to its bracket. -/
def itemsWithin : Nat → Nat → List Char → Except Fault (List Datum × List Char)
  | 0, _, _ => .error .tooDeep
  | fuel + 1, room, text => do
    let (item, rest) ← valueWithin fuel room text
    match ← skipGaps rest with
    | ']' :: rest => return ([item], rest)
    | ',' :: rest =>
      match ← skipGaps rest with
      | ']' :: rest => return ([item], rest)
      | rest =>
        let (items, rest) ← itemsWithin fuel room rest
        return (item :: items, rest)
    | _ => .error .unclosedArray

/-- Reads the fields of an inline table that is not empty, up to its brace. Inline values that were
set before are closed: no key leads into them. -/
def pairsWithin :
    Nat → Nat → List Key → Fields → List Char → Except Fault (Datum × List Char)
  | 0, _, _, _, _ => .error .tooDeep
  | fuel + 1, room, closed, fields, text => do
    let (path, rest) ← key text
    let rest ← equalsSign rest
    let (value, rest) ← valueWithin fuel room rest
    if isWithin closed path then .error .closedNamespace
    else
      match addAt false path value fields with
      | none => .error .overwrittenValue
      | some fields =>
        match skipBlanks rest with
        | '\x7d' :: rest => return (.table fields, rest)
        | ',' :: rest =>
          pairsWithin fuel room (if isNested value then path :: closed else closed) fields
            (skipBlanks rest)
        | _ => .error .unclosedTable

end

/-- Reads a value in some room. Each step inward or onward costs at most two of the counts. -/
def value (room : Nat) (text : List Char) : Result Datum :=
  valueWithin (2 * text.length + 2) room text

end ScriptFront.Toml
