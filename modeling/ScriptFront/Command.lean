import ScriptFront.Reading

/-!
# Commands

The only statement a script knows so far is the command: a slash, any tokens, and a semicolon.
-/

namespace ScriptFront

/-- A command, given by the tokens between its slash and its semicolon. -/
structure Command where
  body : List Token
  deriving DecidableEq

namespace Command

/-- Whether a token opens a command. -/
def isOpener (token : Token) : Bool :=
  token.kind == .symbol .divide

/-- Whether a token closes a command. -/
def isCloser (token : Token) : Bool :=
  token.kind == .symbol .terminator

/-- Groups tokens into commands, up to the end or to the first token that cannot open one. -/
def group (tokens : List Token) : Reading (List Command) :=
  match tokens with
  | [] => .took 0 []
  | token :: rest =>
    if isOpener token then
      let body := rest.takeWhile (! isCloser ·)
      match _hr : rest.dropWhile (! isCloser ·) with
      | [] => .failed (rest.length + 1) .missingTerminator
      | _ :: others => (group others).extend (body.length + 2) (⟨body⟩ :: ·)
    else .failed 0 (.unexpectedToken token)
termination_by tokens.length
decreasing_by
  have hl := (List.dropWhile_sublist (! isCloser ·) (l := rest)).length_le
  simp only [_hr, List.length_cons] at hl
  simp only [List.length_cons]
  omega

end Command

end ScriptFront
