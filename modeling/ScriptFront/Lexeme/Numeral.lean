import ScriptFront.Token.Basic

/-!
# Numerals

The part of a number before its type: an optional sign, digits, and an optional point with more
digits.
-/

namespace ScriptFront

/-- A sign, the digits before the point, and the digits after it if there is a point. -/
structure Numeral where
  negative : Bool
  whole : List Char
  fraction : Option (List Char)
  deriving DecidableEq, Repr

namespace Numeral

/-- The characters of a numeral. -/
def spelling (n : Numeral) : List Char :=
  (if n.negative then ['-'] else []) ++ n.whole ++
    (match n.fraction with
      | none => []
      | some digits => '.' :: digits)

/-- The longest unsigned numeral at the start of a text, with a given sign, and what follows. -/
def unsigned (negative : Bool) (text : List Char) : Numeral × List Char :=
  let whole := text.takeWhile Char.isDigit
  match text.dropWhile Char.isDigit with
  | '.' :: rest =>
    (⟨negative, whole, some (rest.takeWhile Char.isDigit)⟩, rest.dropWhile Char.isDigit)
  | rest => (⟨negative, whole, none⟩, rest)

/-- The longest numeral at the start of a text, and what follows. -/
def split : List Char → Numeral × List Char
  | '-' :: rest => unsigned true rest
  | text => unsigned false text

/-- The value of a run of digits. -/
def digitsValue (digits : List Char) : Nat :=
  Nat.ofDigitChars 10 digits 0

/-- The value of a numeral: an integer without a point, the nearest binary64 number with one. A
numeral without digits, or an integer beyond the digit limit, is the integer zero. -/
def value (n : Numeral) : Value :=
  match n.fraction with
  | none =>
    if n.whole.isEmpty || Text.digitLimit < n.whole.length then .int 0
    else .int (Text.signedNat n.negative (digitsValue n.whole))
  | some digits =>
    if n.whole.isEmpty && digits.isEmpty then .int 0
    else .real (.ofDecimal n.negative (digitsValue (n.whole ++ digits)) (-digits.length))

theorem unsigned_spelling (negative : Bool) (text : List Char) :
    (unsigned negative text).1.spelling ++ (unsigned negative text).2 =
      (if negative then ['-'] else []) ++ text := by
  have h := List.takeWhile_append_dropWhile (p := Char.isDigit) (l := text)
  unfold unsigned
  split
  · rename_i rest hrest
    have hr := List.takeWhile_append_dropWhile (p := Char.isDigit) (l := rest)
    simp only [spelling, List.append_assoc, List.cons_append, hr]
    rw [← hrest, h]
  · simp only [spelling, List.append_assoc, List.append_nil, h]

/-- Splitting off a numeral loses nothing. -/
theorem split_spelling (text : List Char) : (split text).1.spelling ++ (split text).2 = text := by
  unfold split
  split
  · simpa using unsigned_spelling true _
  · simpa using unsigned_spelling false _

end Numeral

end ScriptFront
