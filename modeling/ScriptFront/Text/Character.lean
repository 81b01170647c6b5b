/-!
# Classes of characters

A property of characters that no formula gives is a table: of inclusive ranges of code points for
white space, of the zeros for decimal digits, and of the exceptions for capital forms.
-/

namespace ScriptFront.Text

/-- Inclusive ranges of code points. -/
abbrev Ranges := List (Nat × Nat)

/-- Whether the code point of `c` lies in one of the ranges. -/
def Ranges.has (ranges : Ranges) (c : Char) : Bool :=
  ranges.any fun range => range.1 ≤ c.toNat && c.toNat ≤ range.2

/-! ## Blanks and white space

A script knows two notions of emptiness. *Blanks* separate lexemes and are skipped. *White space* is
the wider Unicode class; it ends a number, but outside a literal any of it that is not blank is
refused. -/

/-- Space, tab and newline are skipped between lexemes. -/
def isBlank (c : Char) : Bool :=
  c == ' ' || c == '\t' || c == '\n'

/-- White space outside ASCII. -/
def wideSpaces : Ranges :=
  [(0x85, 0x85), (0xA0, 0xA0), (0x1680, 0x1680), (0x2000, 0x200A), (0x2028, 0x2029),
   (0x202F, 0x202F), (0x205F, 0x205F), (0x3000, 0x3000)]

/-- The white space of Unicode: the ASCII controls and the space that count as such, and
`wideSpaces`. -/
def isSpace (c : Char) : Bool :=
  Ranges.has [(0x09, 0x0D), (0x1C, 0x20)] c || wideSpaces.has c

/-- Every blank is white space, so a blank ends a number. -/
theorem isSpace_of_isBlank {c : Char} (h : isBlank c = true) : isSpace c = true := by
  simp only [isBlank, Bool.or_eq_true, beq_iff_eq] at h
  rcases h with (rfl | rfl) | rfl <;> decide

/-! ## Decimal digits -/

/-- The code points of the zeros of all scripts of Unicode 14. Decimal digits come in runs of ten,
so these give each digit and its value. -/
def zeros : List Nat :=
  [0x30, 0x660, 0x6F0, 0x7C0, 0x966, 0x9E6, 0xA66, 0xAE6, 0xB66, 0xBE6, 0xC66, 0xCE6, 0xD66,
   0xDE6, 0xE50, 0xED0, 0xF20, 0x1040, 0x1090, 0x17E0, 0x1810, 0x1946, 0x19D0, 0x1A80, 0x1A90,
   0x1B50, 0x1BB0, 0x1C40, 0x1C50, 0xA620, 0xA8D0, 0xA900, 0xA9D0, 0xA9F0, 0xAA50, 0xABF0,
   0xFF10, 0x104A0, 0x10D30, 0x11066, 0x110F0, 0x11136, 0x111D0, 0x112F0, 0x11450, 0x114D0,
   0x11650, 0x116C0, 0x11730, 0x118E0, 0x11950, 0x11C50, 0x11D50, 0x11DA0, 0x16A60, 0x16AC0,
   0x16B50, 0x1D7CE, 0x1D7D8, 0x1D7E2, 0x1D7EC, 0x1D7F6, 0x1E140, 0x1E2F0, 0x1E950, 0x1FBF0]

/-- The value of a decimal digit of any script. -/
def digitValue? (c : Char) : Option Nat :=
  zeros.findSome? fun start =>
    if start ≤ c.toNat ∧ c.toNat < start + 10 then some (c.toNat - start) else none

/-- Whether `c` is a decimal digit of any script. -/
def isDecimalDigit (c : Char) : Bool :=
  (digitValue? c).isSome

/-! ## Capital forms -/

/-- The characters outside ASCII whose capital form is in ASCII. -/
def asciiCapitals : List (Char × List Char) :=
  [('ß', ['S', 'S']), ('ı', ['I']), ('ſ', ['S']), ('ﬀ', ['F', 'F']), ('ﬁ', ['F', 'I']),
   ('ﬂ', ['F', 'L']), ('ﬃ', ['F', 'F', 'I']), ('ﬄ', ['F', 'F', 'L']), ('ﬅ', ['S', 'T']),
   ('ﬆ', ['S', 'T'])]

/-- The capital form of `c` if it lies in ASCII, else `c`: the capital form of any other
character lies outside ASCII, at least in part, just as the character itself does. -/
def capital (c : Char) : List Char :=
  (asciiCapitals.lookup c).getD [c.toUpper]

/-- The capital form of a text, up to the characters outside ASCII that stay outside it. -/
def capitals (s : String) : String :=
  String.ofList (s.toList.flatMap capital)

end ScriptFront.Text
