import ScriptFront.Command
import ScriptFront.Cursor.Text

/-!
# The token cursor

A cursor over a list of tokens. Errors are located by the index reached and point at a token: the
one that is at fault, else the one at the cursor, else the last one. Source and margin are kept
only to show them in errors. Where the token at fault has a value too long to be shown, the reading
breaks off instead.
-/

namespace ScriptFront

/-- A list of tokens, those of them that are left, and the index of the first of these. -/
structure TokenCursor where
  tokens : List Token
  source : Option String
  margin : Int
  rest : List Token
  index : Nat

namespace TokenCursor

variable {α : Type}

/-- The cursor at the start of a list of tokens. -/
def start (tokens : List Token) (source : Option String) (margin : Int) : TokenCursor :=
  ⟨tokens, source, margin, tokens, 0⟩

/-- Moves over some tokens, at most to the end. -/
def move (n : Nat) (k : TokenCursor) : TokenCursor :=
  { k with rest := k.rest.drop n, index := k.index + min n k.rest.length }

/-- What reading at a cursor gives, unless an error is reported or the reading breaks off. -/
abbrev Result (α : Type) : Type :=
  Except (Failure ParseError Breakdown) α

/-- The token at the cursor, at the end the last one. -/
def current? (k : TokenCursor) : Option Token :=
  k.tokens[min k.index (k.tokens.length - 1)]?

/-- The error for a cause met at the cursor, pointing at a given token if there is one. -/
def error (k : TokenCursor) (cause : Cause) (culprit : Option Token) : ParseError :=
  { text := cause.message, kind := cause.kind, index := k.index,
    token := culprit.or k.current?, source := k.source, margin := k.margin }

/-- The token that a cause itself names. -/
def culprit? : Cause → Option Token
  | .unexpectedToken token => some token
  | _ => none

/-- The failure that a cause met at the cursor leads to: its error, if the cause can be stated. -/
def failure (k : TokenCursor) (cause : Cause) (culprit : Option Token) :
    Failure ParseError Breakdown :=
  if cause.isStatable then .reported (k.error cause culprit) else .abort .integerTooLong

/-- Moves by what was read, and locates a failure where the reading stopped. -/
def settle (k : TokenCursor) : Reading α → Result α × TokenCursor
  | .took width answer => (.ok answer, k.move width)
  | .failed width cause => (.error ((k.move width).failure cause (culprit? cause)), k.move width)

/-- Groups the tokens that are left into commands. -/
def commands (k : TokenCursor) : Result (List Command) × TokenCursor :=
  k.settle (Command.group k.rest)

end TokenCursor

/-- An action on a token cursor. -/
inductive TokenAction where
  | base (action : Action Token)
  /-- Fails in the caller's words, pointing at a given token if there is one. -/
  | fail (kind : Option ErrorKind) (message : String) (culprit : Option Token)
  /-- Groups the tokens that are left into commands. -/
  | commands

/-- The answer to an action on a token cursor. -/
inductive TokenAnswer where
  | base (answer : Answer Token)
  | commands (commands : List Command)

namespace TokenCursor

/-- Carries out an action. The cursor keeps what it had reached if the action fails. -/
def perform (k : TokenCursor) : TokenAction → Result TokenAnswer × TokenCursor
  | .base action => k.settle ((action.read k.tokens k.rest k.index).map .base)
  | .fail kind message culprit => (.error (k.failure (.reported kind message) culprit), k)
  | .commands => k.commands.map (·.map .commands) id

/-- Carries out actions one after the other, also after failures, and gives each answer with the
index reached. -/
def performAll (k : TokenCursor) : List TokenAction → List (Result TokenAnswer × Nat)
  | [] => []
  | action :: others =>
    let (answer, k) := k.perform action
    (answer, k.index) :: k.performAll others

end TokenCursor

/-- The commands that a list of tokens makes up, or the first error. Source and margin only serve
to show the error. -/
def buildTree (tokens : List Token) (source : Option String := none) (margin : Int := 0) :
    Except (Failure ParseError Breakdown) (List Command) :=
  (TokenCursor.start tokens source margin).commands.1

end ScriptFront
