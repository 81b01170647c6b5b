import ScriptFront.Text.Character

/-!
# Lines

Cutting a text into lines for display, where every Unicode line break ends a line, and reading a
file as text, where the line ends of other systems become newlines.
-/

namespace ScriptFront.Text

/-- The characters that end a displayed line. -/
def isLineBreak (c : Char) : Bool :=
  Ranges.has [(0x0A, 0x0D), (0x1C, 0x1E), (0x85, 0x85), (0x2028, 0x2029)] c

/-- The lines of a text, each with the break that ends it. A carriage return and the newline
after it are one break. -/
def lines : List Char → List (List Char)
  | [] => []
  | '\r' :: '\n' :: rest => ['\r', '\n'] :: lines rest
  | c :: rest =>
    if isLineBreak c then [c] :: lines rest
    else match lines rest with
      | [] => [[c]]
      | line :: others => (c :: line) :: others

/-- A text without the run of `c` at its end. -/
def dropEnd (c : Char) (text : List Char) : List Char :=
  (text.reverse.dropWhile (· == c)).reverse

/-- A line as it is shown: first its newlines go, then its carriage returns. Other breaks stay. -/
def shownLine (line : List Char) : List Char :=
  dropEnd '\r' (dropEnd '\n' line)

/-- Turns a carriage return, and a carriage return with its newline, into one newline. -/
def unifyNewlines : List Char → List Char
  | [] => []
  | '\r' :: '\n' :: rest => '\n' :: unifyNewlines rest
  | c :: rest => (if c = '\r' then '\n' else c) :: unifyNewlines rest

/-- Turns a carriage return with its newline into a newline and keeps a lone carriage return. -/
def joinNewlines : List Char → List Char
  | [] => []
  | '\r' :: '\n' :: rest => '\n' :: joinNewlines rest
  | c :: rest => c :: joinNewlines rest

/-- The text of a file: UTF-8, with all line ends turned into newlines. -/
def ofFile? (contents : ByteArray) : Option String :=
  (String.fromUTF8? contents).map fun text => String.ofList (unifyNewlines text.toList)

end ScriptFront.Text
