import ScriptFront.Text.Character
import ScriptFront.Text.Integer

/-!
# Integers on the command line

An integer may have white space around it, a sign, single underscores between its digits, and
digits of any script.
-/

namespace ScriptFront.CommandLine

/-- White space that may stand around an integer: that of ASCII without its separators, and all of
it outside ASCII. -/
def isPadding (c : Char) : Bool :=
  Text.Ranges.has [(0x09, 0x0D), (0x20, 0x20)] c || Text.wideSpaces.has c

/-- A text without padding on either side. -/
def trimPadding (text : List Char) : List Char :=
  ((text.dropWhile isPadding).reverse.dropWhile isPadding).reverse

/-- The values of digits with single underscores between them. -/
def digits? : List Char → Option (List Nat)
  | [] => none
  | [c] => (Text.digitValue? c).map ([·])
  | c :: '_' :: rest => do
    let first ← Text.digitValue? c
    let others ← digits? rest
    return first :: others
  | c :: rest => do
    let first ← Text.digitValue? c
    let others ← digits? rest
    return first :: others

/-- The natural number that a text without sign says. -/
def natural? (text : List Char) : Option Nat := do
  let digits ← digits? text
  if digits.length ≤ Text.digitLimit then some (digits.foldl (fun n digit => 10 * n + digit) 0)
  else none

/-- The integer that a text says. -/
def integer? (text : String) : Option Int :=
  let (negative, rest) := Text.splitSign (trimPadding text.toList)
  (natural? rest).map (Text.signedNat negative)

end ScriptFront.CommandLine
