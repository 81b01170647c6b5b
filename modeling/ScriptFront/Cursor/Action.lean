import ScriptFront.Reading

/-!
# Actions on a cursor

A cursor stands somewhere in a list of items and only moves forward. The actions here are the same
whatever the items are. Each is a reading of the items that are left, so what it does to the
cursor is its width.
-/

namespace ScriptFront

/-- What a look at an item gives. -/
inductive Glimpse (α : Type) where
  | item (a : α)
  /-- There is no item so far ahead. -/
  | absent
  /-- The look went back beyond the first item. -/
  | outOfReach
  deriving DecidableEq, Repr

/-- An action on a cursor. -/
inductive Action (α : Type) where
  /-- Asks whether the end is reached; being `strict` makes the end a failure. -/
  | atEnd (strict : Bool)
  /-- Looks at the item some places ahead. -/
  | peek (strict : Bool) (ahead : Int)
  /-- Takes the next item. -/
  | advance
  /-- Passes over the next item. -/
  | skip
  /-- Asks for the number of all items. -/
  | length
  /-- Collects items up to the first that stops it. If `inclusive`, that item has to exist and is
  passed over. -/
  | collect (stops : α → Bool) (inclusive : Bool)

/-- The answer to an action. -/
inductive Answer (α : Type) where
  | flag (b : Bool)
  | glimpse (g : Glimpse α)
  | item (a : α)
  | done
  | count (n : Nat)
  | items (as : List α)

variable {α : Type}

/-- The item at an index. A negative index counts from the end. -/
def Glimpse.at (items : List α) (index : Int) : Glimpse α :=
  let index := if index < 0 ∧ 0 ≤ index + items.length then index + items.length else index
  if index < 0 then .outOfReach
  else match items[index.toNat]? with
    | some a => .item a
    | none => .absent

namespace Action

/-- Reads the items up to the first that stops it. -/
def collected (stops : α → Bool) (inclusive : Bool) (rest : List α) : Reading (List α) :=
  let taken := rest.takeWhile (! stops ·)
  if inclusive then
    if taken.length < rest.length then .took (taken.length + 1) taken
    else .failed taken.length .missingTerminator
  else .took taken.length taken

/-- What an action comes to, given all items, those that are left, and the position of these. At
the end there is nothing to look at, whatever the distance. -/
def read (items rest : List α) (position : Nat) : Action α → Reading (Answer α)
  | atEnd strict =>
    match rest with
    | [] => if strict then .failed 0 .endOfInput else .took 0 (.flag true)
    | _ :: _ => .took 0 (.flag false)
  | peek strict ahead =>
    match rest with
    | [] => if strict then .failed 0 .endOfInput else .took 0 (.glimpse .absent)
    | _ :: _ => .took 0 (.glimpse (.at items (position + ahead)))
  | advance =>
    match rest with
    | [] => .failed 0 .endOfInput
    | a :: _ => .took 1 (.item a)
  | skip =>
    match rest with
    | [] => .failed 0 .endOfInput
    | _ :: _ => .took 1 .done
  | length => .took 0 (.count items.length)
  | collect stops inclusive => (collected stops inclusive rest).map .items

end Action

end ScriptFront
