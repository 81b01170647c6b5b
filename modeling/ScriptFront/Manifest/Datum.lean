import ScriptFront.Binary64.Basic

/-!
# Configuration data

The values that a configuration file can hold. A table keeps its fields in the order in which they
were first set.
-/

namespace ScriptFront

/-- A configuration value. -/
inductive Datum where
  | null
  | bool (b : Bool)
  | int (n : Int)
  | real (x : Binary64)
  | text (s : String)
  /-- A date, a time, or both, as it was written. -/
  | moment (s : String)
  | list (items : List Datum)
  | table (fields : List (String × Datum))

/-- The fields of a table. -/
abbrev Fields := List (String × Datum)

/-- A path of field names. -/
abbrev Key := List String

namespace Fields

/-- Sets a field, in its place if it is there and at the end if it is not. -/
def set (name : String) (value : Datum) : Fields → Fields
  | [] => [(name, value)]
  | field :: others =>
    if field.1 = name then (name, value) :: others else field :: set name value others

/-- Changes the table behind a key, creating the tables on the way that do not exist. Where
`intoLists` is set, a list stands for its last item. Fails if anything else is in the way. -/
def changeAt (intoLists : Bool) (change : Fields → Option Fields) : Key → Fields → Option Fields
  | [], fields => change fields
  | name :: key, fields =>
    match fields.lookup name with
    | none => (changeAt intoLists change key []).map fun inner => fields.set name (.table inner)
    | some (.table inner) =>
      (changeAt intoLists change key inner).map fun inner => fields.set name (.table inner)
    | some (.list items) =>
      match intoLists, items.getLast? with
      | true, some (.table inner) =>
        (changeAt intoLists change key inner).map fun inner =>
          fields.set name (.list (items.dropLast ++ [.table inner]))
      | _, _ => none
    | some _ => none

end Fields

end ScriptFront
