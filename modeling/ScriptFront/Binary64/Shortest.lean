import ScriptFront.Binary64.Basic

/-!
# The shortest decimal of a number

Of the decimals that round to a given finite number, those with the fewest digits, and of these
the nearest one, of two the even one.
-/

namespace ScriptFront.Binary64

/-- The value `digits · 10^exponent`. -/
structure Decimal where
  digits : Nat
  exponent : Int
  deriving DecidableEq, Repr

/-- The number of decimal digits. -/
def digitCount (n : Nat) : Nat :=
  (Nat.toDigits 10 n).length

/-- The exponent of the leading decimal digit of the positive ratio `num / den`. -/
def leadingPlace (num den : Nat) : Int :=
  if den ≤ num then (digitCount (num / den) : Int) - 1
  else -(digitCount ((den - 1) / num) : Int)

/-- The multiple of `10^place` that is nearest to `significand · 2^exponent` among those that
round to it, in units of `10^place`; `none` if no multiple does.

The reals that round to the number reach half a unit up, and half a unit down, or a quarter if the
next number below is in the finer binade. The two ends belong to them if the significand is even.
All of this is compared in units of `2^(exponent-2)`, times powers of two and ten that make both
sides natural numbers. If any multiple lies among them then one of the two neighbours of the number
does. -/
def onGrid? (significand : Nat) (exponent place : Int) : Option Nat :=
  let scale := Nat.pow 2 (exponent - 2).toNat * Nat.pow 10 (-place).toNat
  let step := Nat.pow 2 (2 - exponent).toNat * Nat.pow 10 place.toNat
  let down := if significand = Nat.pow 2 52 ∧ -1074 < exponent then 1 else 2
  let value := 4 * significand * scale
  let low := (4 * significand - down) * scale
  let high := (4 * significand + 2) * scale
  let roundsBack (n : Nat) : Bool :=
    if significand % 2 = 0 then low ≤ n * step && n * step ≤ high
    else low < n * step && n * step < high
  let below := value / step
  let above := below + 1
  match roundsBack below, roundsBack above with
  | true, true =>
    let toBelow := value - below * step
    let toAbove := above * step - value
    if toBelow < toAbove then some below
    else if toAbove < toBelow then some above
    else some (if below % 2 = 0 then below else above)
  | true, false => some below
  | false, true => some above
  | false, false => none

/-- The shortest decimal that rounds to the positive number `significand · 2^exponent`: the first
grid with a hit, from one digit on. Seventeen digits are always enough. -/
def shortest (significand : Nat) (exponent : Int) : Decimal :=
  let leading := leadingPlace (significand * Nat.pow 2 exponent.toNat) (Nat.pow 2 (-exponent).toNat)
  let attempt (more : Nat) : Option Decimal :=
    (onGrid? significand exponent (leading - more)).map fun digits => ⟨digits, leading - more⟩
  ((List.range 17).findSome? attempt).getD ⟨0, 0⟩

end ScriptFront.Binary64
