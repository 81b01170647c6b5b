import ScriptFront.Cursor.Token
import ScriptFront.Pipeline

/-!
# Analysis of a script

A script is analysed by a pipeline of two stages: one reads its tokens, the other groups them into
commands. Whatever they get to, and the error of the one that failed, is recorded. An analysis that
breaks off leaves no record.
-/

namespace ScriptFront

/-- What is known about a script. -/
structure Analysis where
  source : String
  tokens : Option (List Token) := none
  commands : Option (List Command) := none
  lexError : Option LexError := none
  parseError : Option ParseError := none
  deriving DecidableEq

namespace Analysis

/-- The error of the stage that failed. -/
def error? (a : Analysis) : Option Diagnostic :=
  (a.lexError.map .lex).or (a.parseError.map .parse)

/-- Whether both stages succeeded. -/
def ok (a : Analysis) : Bool :=
  a.error?.isNone

/-- What the stages hand over. -/
inductive Artifact where
  | text (source : String)
  | cursor (k : TokenCursor)
  | commands (commands : List Command)

/-- Reads the tokens of a text, records them and hands over a cursor on them. -/
def lexStage (margin : Int) : Stage Analysis Breakdown Artifact where
  run
    | [.text source], a =>
      match tokenize source margin with
      | .ok tokens =>
        (.ok (.one (.cursor (.start tokens (some source) margin))),
          { a with tokens := some tokens })
      | .error failure => (.error (failure.widen .lex), a)
    | _, a => (.ok .nothing, a)
  rescue
    | .lex e, a => (.ok (), { a with lexError := some e })
    | _, a => (.ok (), a)

/-- Groups the tokens under a cursor, records the commands and hands them over. -/
def treeStage : Stage Analysis Breakdown Artifact where
  run
    | [.cursor k], a =>
      match k.commands.1 with
      | .ok commands => (.ok (.one (.commands commands)), { a with commands := some commands })
      | .error failure => (.error (failure.widen .parse), a)
    | _, a => (.ok .nothing, a)
  rescue
    | .parse e, a => (.ok (), { a with parseError := some e })
    | _, a => (.ok (), a)

/-- The two stages. -/
def stages (margin : Int) : Pipeline Analysis Breakdown Artifact :=
  [lexStage margin, treeStage]

end Analysis

/-- Analyses a script whose lines start at a given column. -/
def analyze (source : String) (margin : Int := 0) : Except Breakdown Analysis :=
  match (Analysis.stages margin).execute [.text source] { source := source } with
  | (.error (.abort b), _) => .error b
  | (_, a) => .ok a

/-- The tokens and the commands of a script, or the first error. -/
def compile (source : String) (margin : Int := 0) :
    Except (Failure Diagnostic Breakdown) (List Token × List Command) := do
  let tokens ← (tokenize source margin).mapError (·.widen .lex)
  let commands ← (buildTree tokens (some source) margin).mapError (·.widen .parse)
  return (tokens, commands)

/-- The commands of a script, or the first error. -/
def parse (source : String) (margin : Int := 0) :
    Except (Failure Diagnostic Breakdown) (List Command) := do
  let tokens ← (tokenize source margin).mapError (·.widen .lex)
  (buildTree tokens (some source) margin).mapError (·.widen .parse)

/-- The version of the front end. -/
def version : String :=
  "0.1.0"

end ScriptFront
