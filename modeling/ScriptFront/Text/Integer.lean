import ScriptFront.Failure

/-!
# Integers as text

Writing integers, and what all readers of numbers share. Integers of too many digits are neither
read nor written.
-/

namespace ScriptFront.Text

/-- The decimal text of a natural number. -/
def ofNat (n : Nat) : List Char :=
  Nat.toDigits 10 n

/-- The decimal text of an integer, with a minus sign if it is negative. -/
def ofInt (n : Int) : List Char :=
  if n < 0 then '-' :: ofNat n.natAbs else ofNat n.natAbs

/-- Integers of more digits than this are neither read nor written. -/
def digitLimit : Nat := 4300

/-- The least natural number that has too many digits to be written. -/
def unwritable : Nat := Nat.pow 10 digitLimit

/-- Whether an integer can be written. Its sign does not count. -/
def isWritable (n : Int) : Bool :=
  n.natAbs < unwritable

/-- Goes on if an integer can be written. -/
def checkWritable (n : Int) : Except Breakdown Unit :=
  if isWritable n then .ok () else .error .integerTooLong

/-- The value of a hexadecimal digit. -/
def hexDigit? (c : Char) : Option Nat :=
  if c.isDigit then some (c.toNat - 48)
  else if 'a' ≤ c ∧ c ≤ 'f' then some (c.toNat - 87)
  else if 'A' ≤ c ∧ c ≤ 'F' then some (c.toNat - 55)
  else none

/-- Whether a text has a minus sign in front, and the text without its sign. -/
def splitSign : List Char → Bool × List Char
  | '-' :: rest => (true, rest)
  | '+' :: rest => (false, rest)
  | text => (false, text)

/-- A natural number with a sign. -/
def signedNat (negative : Bool) (n : Nat) : Int :=
  if negative then -n else n

end ScriptFront.Text
