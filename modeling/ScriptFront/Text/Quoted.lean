import ScriptFront.Text.Printable

/-!
# Quoted text

Text as messages and the token table show it: between single quotes, or between double quotes if
it holds a single quote and no double one, with the quote in use, the backslash and every
character that is not printable escaped.
-/

namespace ScriptFront.Text

/-- At least `width` lower-case hexadecimal digits of `n`. -/
def hex (width n : Nat) : List Char :=
  let digits := Nat.toDigits 16 n
  List.replicate (width - digits.length) '0' ++ digits

/-- The shortest numeric escape of a character: two, four or eight hexadecimal digits. -/
def codeEscape (c : Char) : List Char :=
  if c.toNat < 0x100 then '\\' :: 'x' :: hex 2 c.toNat
  else if c.toNat < 0x10000 then '\\' :: 'u' :: hex 4 c.toNat
  else '\\' :: 'U' :: hex 8 c.toNat

/-- The quote that stands around a text. -/
def quoteMark (text : List Char) : Char :=
  if text.contains '\x27' && !text.contains '\x22' then '\x22' else '\x27'

/-- One character inside quotes. -/
def quoteChar (mark c : Char) : List Char :=
  if c = mark || c = '\\' then ['\\', c]
  else if c = '\t' then ['\\', 't']
  else if c = '\n' then ['\\', 'n']
  else if c = '\r' then ['\\', 'r']
  else if isPrintable c then [c]
  else codeEscape c

/-- A text between quotes. -/
def quote (text : List Char) : List Char :=
  let mark := quoteMark text
  mark :: text.flatMap (quoteChar mark) ++ [mark]

/-- A string between quotes. -/
def quoted (s : String) : String :=
  String.ofList (quote s.toList)

end ScriptFront.Text
