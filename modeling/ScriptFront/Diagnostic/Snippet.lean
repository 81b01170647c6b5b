import ScriptFront.Text.Integer
import ScriptFront.Text.Line

/-!
# Source snippets

An error with the source line it is on and carets below what it points at. A snippet can be asked
for that no text can hold, and then there is none.
-/

namespace ScriptFront

/-- What a snippet shows. -/
structure Snippet where
  message : String
  filename : String
  source : String
  row : Int
  column : Int
  /-- The number of characters to underline. -/
  width : Int
  /-- The column of the first character of each line. -/
  margin : Int

namespace Snippet

/-- The line with a given number, from one on, as it is shown; empty if there is none. -/
def line (source : List Char) (row : Int) : List Char :=
  if 1 ≤ row then Text.shownLine ((Text.lines source)[(row - 1).toNat]?.getD []) else []

/-- The spaces and the carets below the line; at least one caret. -/
def underline (column margin width : Int) : List Char :=
  List.replicate (column - margin).toNat ' ' ++ List.replicate (max 1 width).toNat '^'

/-- The error, its place, and the line between gutters as wide as the row number needs. -/
def text (s : Snippet) : String :=
  let row := Text.ofInt s.row
  let gutter := String.ofList (List.replicate (row.length + 1) ' ')
  "error: " ++ s.message ++ "\n" ++
  gutter ++ "--> " ++ s.filename ++ ":" ++ String.ofList row ++ ":" ++
    String.ofList (Text.ofInt s.column) ++ "\n" ++
  gutter ++ "|\n" ++
  String.ofList row ++ " | " ++ String.ofList (line s.source.toList s.row) ++ "\n" ++
  gutter ++ "| " ++ String.ofList (underline s.column s.margin s.width)

/-- From this many characters on, a run of one character cannot be counted: the length of a text is
a signed integer of 64 bits. -/
def countLimit : Nat := Nat.pow 2 63

/-- From this many characters on, a run of one character does not fit into memory. This depends on
the machine: the number is that of one with 16 GiB to give away, at one byte a character. -/
def memoryLimit : Nat := Nat.pow 2 34

/-- Goes on if a text can hold a run of some characters. -/
def checkRun (count : Int) : Except Breakdown Unit :=
  if count < memoryLimit then .ok ()
  else if count < countLimit then .error .outOfMemory
  else .error .lineTooLong

/-- The text of a snippet, if its underline is not too long and its place can be written. -/
def render (s : Snippet) : Except Breakdown String := do
  checkRun (s.column - s.margin)
  checkRun s.width
  Text.checkWritable s.row
  Text.checkWritable s.column
  return s.text

end Snippet

end ScriptFront
