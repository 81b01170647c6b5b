import ScriptFront.Manifest.Datum
import ScriptFront.Text.Integer
import ScriptFront.Toml.Text

/-!
# Numbers of TOML

Integers in four bases and floating numbers, with single underscores between digits.
-/

namespace ScriptFront.Toml

/-- The digits of a run after its first, and the text after it. -/
def moreDigits (isDigit : Char → Bool) : List Char → List Char × List Char
  | [] => ([], [])
  | '_' :: c :: rest =>
    if isDigit c then
      let (digits, rest) := moreDigits isDigit rest
      (c :: digits, rest)
    else ([], '_' :: c :: rest)
  | c :: rest =>
    if isDigit c then
      let (digits, rest) := moreDigits isDigit rest
      (c :: digits, rest)
    else ([], c :: rest)

/-- A run of digits with single underscores between them, and the text after it. -/
def digitRun? (isDigit : Char → Bool) : List Char → Option (List Char × List Char)
  | [] => none
  | c :: rest =>
    if isDigit c then
      let (digits, rest) := moreDigits isDigit rest
      some (c :: digits, rest)
    else none

/-- The value of hexadecimal digits in a base. -/
def runValue (base : Nat) (digits : List Char) : Nat :=
  ofDigits base (digits.filterMap Text.hexDigit?)

/-- An integer with a base in front of it, and the text after it. -/
def basedInteger? : List Char → Option (Nat × List Char)
  | '0' :: 'x' :: rest =>
    (digitRun? (fun c => (Text.hexDigit? c).isSome) rest).map fun run => (runValue 16 run.1, run.2)
  | '0' :: 'b' :: rest =>
    (digitRun? (fun c => c == '0' || c == '1') rest).map fun run => (runValue 2 run.1, run.2)
  | '0' :: 'o' :: rest =>
    (digitRun? (fun c => '0' ≤ c && c ≤ '7') rest).map fun run => (runValue 8 run.1, run.2)
  | _ => none

/-- A decimal number as it is written. -/
structure Written where
  negative : Bool
  whole : List Char
  fraction : Option (List Char)
  /-- The sign and the digits of the exponent. -/
  exponent : Option (Bool × List Char)

/-- The whole part of a decimal number: a zero alone, or digits that start with another one. -/
def wholePart? : List Char → Option (List Char × List Char)
  | '0' :: rest => some (['0'], rest)
  | text => digitRun? Char.isDigit text

/-- The fraction of a decimal number, if there is one. -/
def fractionPart (text : List Char) : Option (List Char) × List Char :=
  match text with
  | '.' :: rest =>
    match digitRun? Char.isDigit rest with
    | some (digits, rest) => (some digits, rest)
    | none => (none, text)
  | _ => (none, text)

/-- The exponent of a decimal number, if there is one. -/
def exponentPart (text : List Char) : Option (Bool × List Char) × List Char :=
  match text with
  | c :: rest =>
    if c == 'e' || c == 'E' then
      let (negative, digits) := Text.splitSign rest
      match digitRun? Char.isDigit digits with
      | some (digits, rest) => (some (negative, digits), rest)
      | none => (none, text)
    else (none, text)
  | [] => (none, text)

/-- The decimal number in front of a text, and what follows. -/
def written? (text : List Char) : Option (Written × List Char) :=
  let (negative, rest) := Text.splitSign text
  (wholePart? rest).map fun whole =>
    let (fraction, rest) := fractionPart whole.2
    let (exponent, rest) := exponentPart rest
    (⟨negative, whole.1, fraction, exponent⟩, rest)

/-- The value of a decimal number: an integer if it has neither fraction nor exponent. -/
def Written.value (w : Written) : Except Fault Datum :=
  match w.fraction, w.exponent with
  | none, none =>
    if Text.digitLimit < w.whole.length then .error .integerTooLong
    else .ok (.int (Text.signedNat w.negative (runValue 10 w.whole)))
  | fraction, exponent =>
    let fraction := fraction.getD []
    let power : Int :=
      match exponent with
      | none => 0
      | some (negative, digits) => Text.signedNat negative (runValue 10 digits)
    .ok (.real (.ofDecimal w.negative (runValue 10 (w.whole ++ fraction))
      (power - fraction.length)))

/-- The name of infinity, or of the number that is not one, with an optional sign. -/
def specialNumber? (text : List Char) : Option (Binary64 × List Char) :=
  match Text.splitSign text with
  | (negative, 'i' :: 'n' :: 'f' :: rest) => some (.infinite negative, rest)
  | (_, 'n' :: 'a' :: 'n' :: rest) => some (.nan, rest)
  | _ => none

/-- Reads a number. -/
def number (text : List Char) : Result Datum :=
  match basedInteger? text with
  | some (n, rest) => .ok (.int n, rest)
  | none =>
    match written? text with
    | some (w, rest) => w.value.map fun value => (value, rest)
    | none =>
      match specialNumber? text with
      | some (x, rest) => .ok (.real x, rest)
      | none => .error .invalidValue

end ScriptFront.Toml
