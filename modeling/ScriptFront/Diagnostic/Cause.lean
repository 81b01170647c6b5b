import ScriptFront.Token.Basic

/-!
# Causes of failure

Every way in which reading a script can fail. The kind and the wording of an error are functions
of its cause; where it is reported is up to the cursor that met it.
-/

namespace ScriptFront

/-- What an error is about. -/
inductive ErrorKind where
  /-- The input ended where a value was required. -/
  | unexpectedEnd
  /-- The input ended before the terminator of a span. -/
  | unterminatedSpan
  | unterminatedString
  | doubleDecimalPoint
  | negativeUnsigned
  | unknownIntegerType
  | unknownNumberType
  | unexpectedCharacter
  | unexpectedToken
  deriving DecidableEq, Repr

/-- Why reading stopped. -/
inductive Cause where
  /-- An item was required at the end of the input. -/
  | endOfInput
  /-- The input ended before the terminator of a span. -/
  | missingTerminator
  /-- The text ended inside a literal. -/
  | unterminatedLiteral
  /-- A number has a second decimal point. -/
  | secondPoint
  /-- A negative number has the mark of unsigned types. -/
  | negativeUnsigned
  /-- The text ended after the mark of unsigned types. -/
  | missingIntegerType
  /-- A letter after the mark of unsigned types stands for no integer type. -/
  | unknownIntegerType (c : Char)
  /-- A character after a number stands for no number type. -/
  | unknownNumberType (c : Char)
  /-- No lexeme starts with this character. -/
  | unexpectedCharacter (c : Char)
  /-- No statement starts with this token. -/
  | unexpectedToken (token : Token)
  /-- The caller asked for a failure in its own words. -/
  | reported (kind : Option ErrorKind) (message : String)
  deriving DecidableEq

namespace Cause

/-- The kind of error a cause gives rise to. Only a caller can leave it open. -/
def kind : Cause → Option ErrorKind
  | endOfInput => some .unexpectedEnd
  | missingTerminator => some .unterminatedSpan
  | unterminatedLiteral => some .unterminatedString
  | secondPoint => some .doubleDecimalPoint
  | negativeUnsigned => some .negativeUnsigned
  | missingIntegerType => some .unexpectedEnd
  | unknownIntegerType _ => some .unknownIntegerType
  | unknownNumberType _ => some .unknownNumberType
  | unexpectedCharacter _ => some .unexpectedCharacter
  | unexpectedToken _ => some .unexpectedToken
  | reported kind _ => kind

/-- The wording of a cause. -/
def message : Cause → String
  | endOfInput => "unexpected end of input"
  | missingTerminator => "expected terminator, found end of input"
  | unterminatedLiteral => "unterminated string literal"
  | secondPoint => "unexpected second decimal point"
  | negativeUnsigned => "unsigned number cannot be negative"
  | missingIntegerType => "expected an integer type after 'u', found end of input"
  | unknownIntegerType c => "unknown integer type " ++ String.ofList (Text.quote [c])
  | unknownNumberType c => "unknown number type " ++ String.ofList (Text.quote [c])
  | unexpectedCharacter c => "unexpected character " ++ String.ofList (Text.quote [c])
  | unexpectedToken token =>
    "unexpected token " ++ String.ofList token.value.shown ++ " (" ++ token.kind.name ++ ")"
  | reported _ message => message

/-- Whether a cause can be put into words. A token is named by its value, which may be too long to
be shown. -/
def isStatable : Cause → Bool
  | unexpectedToken token => token.value.isWritable
  | _ => true

end Cause

end ScriptFront
