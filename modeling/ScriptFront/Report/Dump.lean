import ScriptFront.Command
import ScriptFront.Report.Json

/-!
# Dumps of tokens and commands

Tokens and commands as indented JSON, and tokens as a table with one line each.
-/

namespace ScriptFront.Report

/-- The value of a token as JSON. -/
def value : Value → List Char
  | .text s => Json.string s.toList
  | .int n => Text.ofInt n
  | .real x => Json.layout.text x

/-- A position as a JSON object. -/
def position (level : Nat) (p : Position) : List Char :=
  Json.object level
    [("row", Text.ofInt p.row), ("col", Text.ofInt p.column), ("position", Text.ofInt p.offset),
     ("tokenLength", Text.ofInt p.length)]

/-- A token as a JSON object. -/
def token (level : Nat) (t : Token) : List Char :=
  Json.object level
    [("type", Json.string t.kind.category.name.toList),
     ("specific", Json.string t.kind.name.toList), ("value", value t.value),
     ("position", position (level + 1) t.position)]

/-- Tokens as a JSON array. -/
def tokenArray (level : Nat) (tokens : List Token) : List Char :=
  Json.array level (tokens.map (token (level + 1)))

/-- A command as a JSON object. -/
def command (level : Nat) (c : Command) : List Char :=
  Json.object level
    [("type", Json.string "command".toList), ("value", tokenArray (level + 1) c.body)]

/-- Whether the value and the position of a token can be written. -/
def isWritable (t : Token) : Bool :=
  t.value.isWritable && Text.isWritable t.position.row && Text.isWritable t.position.column &&
    Text.isWritable t.position.offset && Text.isWritable t.position.length

/-- A list of tokens as JSON text. -/
def dumpTokens (tokens : List Token) : Except Breakdown String :=
  if tokens.all isWritable then .ok (String.ofList (tokenArray 0 tokens))
  else .error .integerTooLong

/-- A list of commands as JSON text. -/
def dumpTree (commands : List Command) : Except Breakdown String :=
  if commands.all (·.body.all isWritable) then
    .ok (String.ofList (Json.array 0 (commands.map (command 1))))
  else .error .integerTooLong

/-- A text with spaces after it up to a width. -/
def padded (width : Nat) (text : List Char) : List Char :=
  text ++ List.replicate (width - text.length) ' '

/-- The line of a token in the token table. -/
def tableLine (t : Token) : List Char :=
  Text.ofInt t.position.row ++ ':' :: Text.ofInt t.position.column ++
    ' ' :: padded 6 t.kind.category.name.toList ++ ' ' :: padded 20 t.kind.name.toList ++
    ' ' :: t.value.shown ++ ['\n']

/-- Whether the line of a token can be written. -/
def hasTableLine (t : Token) : Bool :=
  Text.isWritable t.position.row && Text.isWritable t.position.column && t.value.isWritable

/-- The token table, down to the first line that cannot be written. -/
def tokenTable (tokens : List Token) : String :=
  String.ofList ((tokens.takeWhile hasTableLine).flatMap tableLine)

/-- What breaks the token table off, if anything does. -/
def tableBreakdown? (tokens : List Token) : Option Breakdown :=
  if tokens.all hasTableLine then none else some .integerTooLong

end ScriptFront.Report
