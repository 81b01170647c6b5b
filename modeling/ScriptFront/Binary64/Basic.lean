/-!
# Binary64 numbers

The numbers of the IEEE 754 binary64 format as exact values, with correct rounding of ratios,
decimals and integers to them. Everything is arithmetic on natural numbers and integers, so that
facts about rounding can be proved.
-/

namespace ScriptFront

/-- A significand and an exponent that binary64 uses for `significand · 2^exponent`: 53 bits, of
which the first is set unless the exponent is the least one. -/
def Canonical (significand : Nat) (exponent : Int) : Prop :=
  significand < Nat.pow 2 53 ∧ -1074 ≤ exponent ∧ exponent ≤ 971 ∧
    (Nat.pow 2 52 ≤ significand ∨ exponent = -1074)

instance (significand : Nat) (exponent : Int) : Decidable (Canonical significand exponent) :=
  inferInstanceAs (Decidable (_ ∧ _))

/-- A binary64 number. Zero has both signs. -/
inductive Binary64 where
  /-- The number `± significand · 2^exponent`. -/
  | finite (negative : Bool) (significand : Nat) (exponent : Int)
      (canonical : Canonical significand exponent)
  | infinite (negative : Bool)
  | nan
  deriving DecidableEq

namespace Binary64

/-! ## Rounding -/

/-- The zero of either sign. -/
def zero (negative : Bool) : Binary64 :=
  .finite negative 0 (-1074) (by decide)

/-- The number `± significand · 2^exponent`, or an infinity if it is out of range. -/
def ofParts (negative : Bool) (significand : Nat) (exponent : Int) : Binary64 :=
  if h : Canonical significand exponent then .finite negative significand exponent h
  else .infinite negative

/-- The natural number nearest to `num / den`, of two the even one. -/
def roundHalfEven (num den : Nat) : Nat :=
  let quotient := num / den
  let remainder := num % den
  if 2 * remainder < den then quotient
  else if den < 2 * remainder then quotient + 1
  else quotient + quotient % 2

/-- Whether `2^k ≤ num / den`. -/
def reaches (num den : Nat) (k : Int) : Bool :=
  den * Nat.pow 2 k.toNat ≤ num * Nat.pow 2 (-k).toNat

/-- The exponent of the last bit that is kept when the positive ratio `num / den` is rounded.
The ratio lies strictly between `2^(k-1)` and `2^(k+1)` for `k` the difference of the two
logarithms, and 53 bits are kept as long as the format has room for them. -/
def lastPlace (num den : Nat) : Int :=
  let k : Int := (num.log2 : Int) - den.log2
  max (if reaches num den k then k - 52 else k - 53) (-1074)

/-- The number nearest to `± num / den`, of two the one with the even significand. -/
def ofRatio (negative : Bool) (num den : Nat) : Binary64 :=
  if num = 0 then zero negative
  else
    let exponent := lastPlace num den
    let significand := roundHalfEven (num * Nat.pow 2 (-exponent).toNat)
      (den * Nat.pow 2 exponent.toNat)
    -- rounding up may carry into a bit for which there is no room
    if significand = Nat.pow 2 53 then ofParts negative (Nat.pow 2 52) (exponent + 1)
    else ofParts negative significand exponent

/-- The number nearest to `± digits · 10^exponent`.

As `8 < 10`, the value is at least `2^(log2 digits + 3 · exponent)` for a non-negative exponent
and less than `2^(log2 digits + 1 + 3 · exponent)` for a negative one. So a decimal that is far out
of range is told from its exponent alone, without writing it out. -/
def ofDecimal (negative : Bool) (digits : Nat) (exponent : Int) : Binary64 :=
  if digits = 0 then zero negative
  else if 0 ≤ exponent ∧ 1024 ≤ digits.log2 + 3 * exponent then .infinite negative
  else if exponent < 0 ∧ digits.log2 + 1 + 3 * exponent ≤ -1076 then zero negative
  else ofRatio negative (digits * Nat.pow 10 exponent.toNat) (Nat.pow 10 (-exponent).toNat)

/-- The number nearest to an integer; one that is too large gives an infinity. -/
def ofInt (n : Int) : Binary64 :=
  ofRatio (n < 0) n.natAbs 1

/-! ## Reading a number off -/

/-- The integer part of a finite number, toward zero. -/
def trunc? : Binary64 → Option Int
  | .finite negative significand exponent _ =>
    let magnitude : Nat := significand * Nat.pow 2 exponent.toNat / Nat.pow 2 (-exponent).toNat
    some (if negative then -magnitude else magnitude)
  | .infinite _ => none
  | .nan => none

/-- Whether the sign is clear; a number that is not one has no sign. -/
def isNonnegative : Binary64 → Bool
  | .finite negative _ _ _ => !negative
  | .infinite negative => !negative
  | .nan => false

end Binary64

end ScriptFront
