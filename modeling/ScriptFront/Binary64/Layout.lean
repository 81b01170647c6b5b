import ScriptFront.Binary64.Shortest
import ScriptFront.Text.Integer

/-!
# The text of a number

How the digits of a decimal are laid out: positionally near one, with an exponent elsewhere.
-/

namespace ScriptFront.Binary64

/-- The decisions of a text format for numbers. -/
structure Layout where
  /-- The least exponent of the leading digit that is written positionally. -/
  least : Int
  /-- The least larger exponent that is not. -/
  limit : Int
  /-- The least number of digits of a written exponent. -/
  exponentWidth : Nat
  /-- The text of positive infinity. -/
  infinity : String
  /-- The text of a number that is not one. -/
  nan : String

/-- Digits without the zeros at their end. -/
def trimZeros (digits : List Char) : List Char :=
  (digits.reverse.dropWhile (· == '0')).reverse

/-- Digits with the point after the leading one's place `leading`, and at least one digit on both
sides of the point. -/
def positional (digits : List Char) (leading : Int) : List Char :=
  if leading < 0 then
    '0' :: '.' :: List.replicate (-leading - 1).toNat '0' ++ digits
  else
    let count := leading.toNat + 1
    let whole := digits.take count ++ List.replicate (count - digits.length) '0'
    let fraction := digits.drop count
    whole ++ '.' :: (if fraction.isEmpty then ['0'] else fraction)

/-- The first digit, a point and the others if there are any, and a signed exponent. -/
def scientific (width : Nat) (digits : List Char) (leading : Int) : List Char :=
  let point := if digits.length ≤ 1 then digits else digits.take 1 ++ '.' :: digits.drop 1
  let exponent := Text.ofNat leading.natAbs
  point ++ 'e' :: (if leading < 0 then '-' else '+') ::
    (List.replicate (width - exponent.length) '0' ++ exponent)

/-- The text of the digits of a decimal. -/
def Layout.magnitude (layout : Layout) (decimal : Decimal) : List Char :=
  let digits := Text.ofNat decimal.digits
  let leading := decimal.exponent + digits.length - 1
  let digits := trimZeros digits
  if layout.least ≤ leading ∧ leading < layout.limit then positional digits leading
  else scientific layout.exponentWidth digits leading

/-- A sign in front of a text. -/
def signed (negative : Bool) (text : List Char) : List Char :=
  if negative then '-' :: text else text

/-- The text of a number: the fewest digits that read back as it. -/
def Layout.text (layout : Layout) : Binary64 → List Char
  | .finite negative significand exponent _ =>
    signed negative
      (if significand = 0 then positional ['0'] 0
       else layout.magnitude (shortest significand exponent))
  | .infinite negative => signed negative layout.infinity.toList
  | .nan => layout.nan.toList

end ScriptFront.Binary64
