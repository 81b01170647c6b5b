import ScriptFront.Diagnostic.Cause
import ScriptFront.Diagnostic.Snippet

/-!
# Diagnostics

The errors of the front end: lexical ones located by row and column, syntactic ones located by
token index, configuration ones located by path, and general ones. The full message of an error is
its text followed by its location, if it has one. A lexical error is stated with its location from
the start, so it cannot be reported if its column cannot be written.
-/

namespace ScriptFront

/-- An error met while reading characters. -/
structure LexError where
  text : String
  kind : Option ErrorKind
  row : Int
  column : Int
  offset : Int
  source : String
  margin : Int := 0
  deriving DecidableEq

/-- An error met while grouping tokens. -/
structure ParseError where
  text : String
  kind : Option ErrorKind
  index : Int
  /-- The token to point at. -/
  token : Option Token := none
  source : Option String := none
  margin : Int := 0
  deriving DecidableEq

/-- An error in a project's configuration. -/
structure ConfigError where
  text : String
  path : Option String := none
  deriving DecidableEq, Repr

/-- A text followed by a location, which may be empty. -/
def locatedText (text location : String) : String :=
  if location.isEmpty then text else text ++ " " ++ location

/-- The file name that snippets use if none is given. -/
def defaultFilename : String :=
  "input.ss"

namespace LexError

/-- Row and column in parentheses. -/
def location (e : LexError) : String :=
  "(" ++ String.ofList (Text.ofInt e.row) ++ ":" ++ String.ofList (Text.ofInt e.column) ++ ")"

/-- The text with its location. -/
def message (e : LexError) : String :=
  locatedText e.text e.location

/-- The snippet of a lexical error, which points at one character. -/
def snippet (e : LexError) (filename : String) : Snippet :=
  { message := e.text, filename := filename, source := e.source, row := e.row,
    column := e.column, width := 1, margin := e.margin }

/-- The error with its source line. -/
def format (e : LexError) (filename : String) : Except Breakdown String :=
  (e.snippet filename).render

/-- Whether the location of an error can be written. -/
def isStatable (e : LexError) : Bool :=
  Text.isWritable e.row && Text.isWritable e.column

/-- The failure that an error leads to: it is reported, if it can be stated. -/
def failure (e : LexError) : Failure LexError Breakdown :=
  if e.isStatable then .reported e else .abort .integerTooLong

end LexError

namespace ParseError

/-- The token index in parentheses. -/
def location (e : ParseError) : String :=
  "(" ++ String.ofList (Text.ofInt e.index) ++ ")"

/-- The text with its location. -/
def message (e : ParseError) : String :=
  locatedText e.text e.location

/-- The snippet of a syntactic error, which points at its token; there is none without the token
and the source. -/
def snippet? (e : ParseError) (filename : String) : Option Snippet :=
  match e.token, e.source with
  | some token, some source =>
    some { message := e.text, filename := filename, source := source,
           row := token.position.row, column := token.position.column,
           width := token.position.length, margin := e.margin }
  | _, _ => none

/-- The error with its source line, or with its location if there is nothing to show. -/
def format (e : ParseError) (filename : String) : Except Breakdown String :=
  match e.snippet? filename with
  | some snippet => snippet.render
  | none => .ok ("error: " ++ e.message)

end ParseError

namespace ConfigError

/-- The path in parentheses, if there is one that is not empty. -/
def location (e : ConfigError) : String :=
  match e.path with
  | none => ""
  | some path => if path.isEmpty then "" else "(" ++ path ++ ")"

/-- The text with its location. -/
def message (e : ConfigError) : String :=
  locatedText e.text e.location

end ConfigError

/-- An error of the front end. -/
inductive Diagnostic where
  | lex (e : LexError)
  | parse (e : ParseError)
  | config (e : ConfigError)
  | general (text : String) (kind : Option ErrorKind)
  deriving DecidableEq

namespace Diagnostic

/-- The text without its location. -/
def text : Diagnostic → String
  | lex e => e.text
  | parse e => e.text
  | config e => e.text
  | general text _ => text

/-- The location, which may be empty. -/
def location : Diagnostic → String
  | lex e => e.location
  | parse e => e.location
  | config e => e.location
  | general _ _ => ""

/-- The text with its location. -/
def message (d : Diagnostic) : String :=
  locatedText d.text d.location

end Diagnostic

end ScriptFront
