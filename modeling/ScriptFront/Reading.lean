import ScriptFront.Diagnostic.Cause

/-!
# Readings

Reading from the front of a list of items either takes some of them and gives an answer, or stops
after some of them for a cause. How many items were consumed is known in both cases, so a cursor
can be moved and an error can be located afterwards, by whoever keeps track of places.
-/

namespace ScriptFront

/-- What reading comes to: how many items were consumed, and the answer or the cause why there is
none. -/
inductive Reading (α : Type) where
  | took (width : Nat) (answer : α)
  | failed (width : Nat) (cause : Cause)

namespace Reading

variable {α β : Type}

/-- The number of items consumed. -/
def width : Reading α → Nat
  | took width _ => width
  | failed width _ => width

/-- The reading as seen from `before` items earlier, with its answer changed. -/
def extend (before : Nat) (f : α → β) : Reading α → Reading β
  | took width answer => took (before + width) (f answer)
  | failed width cause => failed (before + width) cause

/-- The reading with its answer changed. -/
def map (f : α → β) : Reading α → Reading β
  | took width answer => took width (f answer)
  | failed width cause => failed width cause

end Reading

end ScriptFront
