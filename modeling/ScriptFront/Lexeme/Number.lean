import ScriptFront.Lexeme.Basic
import ScriptFront.Lexeme.Numeral
import ScriptFront.Text.Character

/-!
# Numbers

A number is a numeral with an optional type: a letter, or the mark of unsigned types and a letter.
White space or a symbol after the numeral ends it; any other character is taken for its type.
-/

namespace ScriptFront.Lexeme

/-- A numeral without a type is an integer, or a floating number if it has a point. -/
def plainNumber (numeral : Numeral) : Lexeme :=
  ⟨.number (if numeral.fraction.isSome then .float else .signed .int), numeral.value⟩

/-- A numeral with a type: floating types take the value as a binary64 number, integer types drop
its fraction. -/
def typedNumber (numeral : Numeral) (type : NumberKind) : Lexeme :=
  ⟨.number type,
    if type.isFloating then numeral.value.floated else numeral.value.truncated⟩

/-- Whether a letter marks an unsigned type. -/
def isUnsignedMark (c : Char) : Bool :=
  c == 'u' || c == 'U'

/-- Reads the type of an unsigned number after its mark; `width` counts what stands before it. -/
def unsignedNumber (numeral : Numeral) (width : Nat) : List Char → Reading Lexeme
  | [] => .failed width .missingIntegerType
  | c :: _ =>
    match IntegerSize.ofSuffix? c with
    | some size => .took (width + 1) (typedNumber numeral (.unsigned size))
    | none => .failed width (.unknownIntegerType c)

/-- Reads what may follow a numeral. A character that is no type is consumed before it is
refused. -/
def numberType (numeral : Numeral) : List Char → Reading Lexeme
  | [] => .took numeral.spelling.length (plainNumber numeral)
  | c :: rest =>
    let width := numeral.spelling.length
    -- without a point in the numeral the point would have become part of it
    if c == '.' && numeral.fraction.isSome then .failed width .secondPoint
    else if isUnsignedMark c then
      if numeral.negative then .failed width .negativeUnsigned
      else unsignedNumber numeral (width + 1) rest
    else if Text.isSpace c || Symbol.isSymbolChar c then .took width (plainNumber numeral)
    else match NumberKind.ofSuffix? c with
      | some type => .took (width + 1) (typedNumber numeral type)
      | none => .failed (width + 1) (.unknownNumberType c)

/-- Reads a number, whose numeral may be empty. -/
def number (text : List Char) : Reading Lexeme :=
  numberType (Numeral.split text).1 (Numeral.split text).2

end ScriptFront.Lexeme
