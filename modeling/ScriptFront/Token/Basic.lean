import ScriptFront.Binary64.Layout
import ScriptFront.Text.Quoted
import ScriptFront.Token.Kind

/-!
# Tokens

A token is a lexeme with its place in the source. It carries a text, an integer of any size, or a
binary64 number. The value of a number need not follow its type: a numeral without digits is the
integer zero whatever its type, and an infinite number stays one where an integer is asked for.
-/

namespace ScriptFront

/-- The value of a token. -/
inductive Value where
  | text (s : String)
  | int (n : Int)
  | real (x : Binary64)
  deriving DecidableEq

namespace Value

/-- How messages and the token table write a number that is not an integer. -/
def layout : Binary64.Layout :=
  { least := -4, limit := 16, exponentWidth := 2, infinity := "inf", nan := "nan" }

/-- A value as messages and the token table show it. -/
def shown : Value → List Char
  | text s => Text.quote s.toList
  | int n => Text.ofInt n
  | real x => layout.text x

/-- Whether a value can be shown. Only an integer can be too long for that. -/
def isWritable : Value → Bool
  | text _ => true
  | int n => Text.isWritable n
  | real _ => true

/-- Drops the fraction of a number, toward zero. An infinite number has none to drop. -/
def truncated : Value → Value
  | real x => (x.trunc?.map int).getD (real x)
  | int n => int n
  | text s => text s

/-- Turns an integer into the nearest binary64 number. -/
def floated : Value → Value
  | int n => real (.ofInt n)
  | real x => real x
  | text s => text s

end Value

/-! ## Places -/

/-- Where a token stands: the row from one on, the column from the left margin on, the offset
from zero on, and the number of source characters it spans. -/
structure Position where
  row : Int
  column : Int
  offset : Int
  length : Int
  deriving DecidableEq, Repr

/-- The offset just after a token. -/
def Position.endOffset (p : Position) : Int :=
  p.offset + p.length

/-- A lexical unit with its decoded value. -/
structure Token where
  kind : Kind
  value : Value
  position : Position
  deriving DecidableEq

end ScriptFront
