import ScriptFront.Toml.Text

/-!
# Dates and times of TOML

A date, a time, or a date with a time and an optional offset. Only where such a text ends, and
whether its date exists, matters here.
-/

namespace ScriptFront.Toml

/-- A number of exactly two digits within bounds, and the text after it. -/
def twoDigits? (least most : Nat) : List Char → Option (Nat × List Char)
  | a :: b :: rest =>
    if a.isDigit && b.isDigit then
      let n := ofDigits 10 [a.toNat - 48, b.toNat - 48]
      if least ≤ n ∧ n ≤ most then some (n, rest) else none
    else none
  | _ => none

/-- The text after a given character. -/
def after? (c : Char) : List Char → Option (List Char)
  | d :: rest => if c == d then some rest else none
  | [] => none

/-- The text after a fraction of a second, if there is one. -/
def skipFraction : List Char → List Char
  | '.' :: c :: rest => if c.isDigit then rest.dropWhile Char.isDigit else '.' :: c :: rest
  | text => text

/-- The text after a time. -/
def time? (text : List Char) : Option (List Char) := do
  let (_, rest) ← twoDigits? 0 23 text
  let rest ← after? ':' rest
  let (_, rest) ← twoDigits? 0 59 rest
  let rest ← after? ':' rest
  let (_, rest) ← twoDigits? 0 59 rest
  return skipFraction rest

/-- The text after an offset with a sign. -/
def numericOffset? (text : List Char) : Option (List Char) := do
  let rest ← (after? '+' text).or (after? '-' text)
  let (_, rest) ← twoDigits? 0 23 rest
  let rest ← after? ':' rest
  let (_, rest) ← twoDigits? 0 59 rest
  return rest

/-- The text after an offset, if there is one. -/
def skipOffset (text : List Char) : List Char :=
  ((after? 'Z' text).or ((after? 'z' text).or (numericOffset? text))).getD text

/-- A year, a month and a day. -/
structure Date where
  year : Nat
  month : Nat
  day : Nat

/-- The number of days of a month. -/
def daysIn (year month : Nat) : Nat :=
  if month = 2 then
    if year % 4 = 0 ∧ (year % 100 ≠ 0 ∨ year % 400 = 0) then 29 else 28
  else if month = 4 ∨ month = 6 ∨ month = 9 ∨ month = 11 then 30
  else 31

/-- Whether a date exists. Years start at one. -/
def Date.exists (d : Date) : Bool :=
  0 < d.year && d.day ≤ daysIn d.year d.month

/-- A date and the text after it. -/
def date? (text : List Char) : Option (Date × List Char) := do
  let (century, rest) ← twoDigits? 0 99 text
  let (year, rest) ← twoDigits? 0 99 rest
  let rest ← after? '-' rest
  let (month, rest) ← twoDigits? 1 12 rest
  let rest ← after? '-' rest
  let (day, rest) ← twoDigits? 1 31 rest
  return (⟨100 * century + year, month, day⟩, rest)

/-- The text after the time of a date, if there is one. -/
def skipTimeOfDay (text : List Char) : List Char :=
  match text with
  | c :: rest =>
    if c == 'T' || c == 't' || c == ' ' then
      match time? rest with
      | some rest => skipOffset rest
      | none => text
    else text
  | [] => text

/-- The text after a date or a time in front of it; nothing if there is neither. -/
def moment? (text : List Char) : Except Fault (Option (List Char)) :=
  match date? text with
  | some (date, rest) =>
    if date.exists then .ok (some (skipTimeOfDay rest)) else .error .invalidDate
  | none => .ok (time? text)

end ScriptFront.Toml
