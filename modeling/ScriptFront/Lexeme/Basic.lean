import ScriptFront.Reading

/-!
# Lexemes, words, symbols and literals

A lexeme is a token without its place. Each reader below looks at a text that starts where the
lexeme should, and consumes it.
-/

namespace ScriptFront

/-- A kind and a decoded value. -/
structure Lexeme where
  kind : Kind
  value : Value
  deriving DecidableEq

namespace Lexeme

/-- The lexeme of a symbol, whose value is its spelling. -/
def ofSymbol (s : Symbol) : Lexeme :=
  ⟨.symbol s, .text (String.ofList s.spelling)⟩

/-- Reads the longest run of letters, which may be empty. -/
def word (text : List Char) : Reading Lexeme :=
  let letters := text.takeWhile Char.isAlpha
  .took letters.length ⟨.word, .text (String.ofList letters)⟩

/-- Reads the longest symbol, if there is one. -/
def symbol (text : List Char) : Reading (Option Lexeme) :=
  match Symbol.longest? text with
  | some s => .took s.spelling.length (some (ofSymbol s))
  | none => .took 0 none

/-- What a character stands for after a backslash. -/
def unescape (c : Char) : Char :=
  (escapes.lookup c).getD c

/-- The decoded characters of a literal up to its closing quote, and the number of characters
consumed with the closing quote; `none` if there is no closing quote. A backslash takes the
character after it along, so that an escaped quote does not close the literal. -/
def literalBody : List Char → Option (List Char × Nat)
  | [] => none
  | '\x22' :: _ => some ([], 1)
  | '\\' :: c :: rest => (literalBody rest).map fun body => (unescape c :: body.1, body.2 + 2)
  | '\\' :: [] => none
  | c :: rest => (literalBody rest).map fun body => (c :: body.1, body.2 + 1)

/-- Reads a literal. Its first character is taken for the opening quote, whatever it is. -/
def literal : List Char → Reading Lexeme
  | [] => .failed 0 .endOfInput
  | _ :: rest =>
    match literalBody rest with
    | some (value, width) => .took (width + 1) ⟨.literal, .text (String.ofList value)⟩
    | none => .failed (rest.length + 1) .unterminatedLiteral

end Lexeme

end ScriptFront
