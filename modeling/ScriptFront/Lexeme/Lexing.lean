import ScriptFront.Lexeme.Number

/-!
# Cutting a text into lexemes

A text is cut into blank gaps and lexemes, up to its end or up to the first lexeme that cannot be
read. The first character of a lexeme decides how it is read: a quote starts a literal, a letter a
word, a symbol is the longest that fits, and a digit starts a number. A minus sign is always a
symbol here.
-/

namespace ScriptFront

/-- Reads the lexeme that a text without leading blanks starts with. -/
def Lexeme.read : List Char → Reading Lexeme
  | [] => .failed 0 .endOfInput
  | c :: rest =>
    if c = '\x22' then literal (c :: rest)
    else if c.isAlpha then word (c :: rest)
    else match Symbol.longest? (c :: rest) with
      | some s => .took s.spelling.length (ofSymbol s)
      | none =>
        if c.isDigit then number (c :: rest)
        else .failed 0 (.unexpectedCharacter c)

/-- A text cut into gaps and lexemes. Gaps and lexemes are given by their widths. -/
inductive Lexing where
  /-- Only a gap is left. -/
  | finished (gap : Nat)
  /-- After a gap, reading a lexeme failed `width` characters on. -/
  | stuck (gap width : Nat) (cause : Cause)
  /-- A gap, a lexeme, and the rest of the text. -/
  | lexeme (gap width : Nat) (head : Lexeme) (tail : Lexing)

/-! ## Progress -/

namespace Lexeme

private theorem numeral_spelling_pos {c : Char} (rest : List Char) (hc : c.isDigit = true) :
    0 < (Numeral.split (c :: rest)).1.spelling.length := by
  have hm : c ≠ '-' := by rintro rfl; simp at hc
  have hs : Numeral.split (c :: rest) = Numeral.unsigned false (c :: rest) := by
    unfold Numeral.split
    split
    · simp_all
    · rfl
  rw [hs]
  unfold Numeral.unsigned
  split <;> simp [Numeral.spelling, hc]

/-- What follows a numeral never makes the number shorter than the numeral. -/
theorem spelling_le_of_numberType {numeral : Numeral} {rest : List Char} {width : Nat}
    {lexeme : Lexeme} (h : numberType numeral rest = .took width lexeme) :
    numeral.spelling.length ≤ width := by
  unfold numberType at h
  split at h
  · simp only [Reading.took.injEq] at h
    omega
  · dsimp only at h
    split at h
    · cases h
    · split at h
      · split at h
        · cases h
        · unfold unsignedNumber at h
          split at h
          · cases h
          · split at h
            · simp only [Reading.took.injEq] at h
              omega
            · cases h
      · split at h
        · simp only [Reading.took.injEq] at h
          omega
        · split at h
          · simp only [Reading.took.injEq] at h
            omega
          · cases h

/-- A lexeme that is read is not empty. -/
theorem width_pos_of_read {text : List Char} {width : Nat} {lexeme : Lexeme}
    (h : read text = .took width lexeme) : 0 < width := by
  unfold read at h
  split at h
  · cases h
  · rename_i c rest
    split at h
    · simp only [literal] at h
      split at h
      · simp only [Reading.took.injEq] at h
        omega
      · cases h
    · split at h
      · rename_i ha
        simp only [word, List.takeWhile_cons, ha, Reading.took.injEq, if_true,
          List.length_cons] at h
        omega
      · split at h
        · rename_i s _
          have hs := s.spelling_length_pos
          simp only [Reading.took.injEq] at h
          omega
        · split at h
          · rename_i hd
            have hp := numeral_spelling_pos rest hd
            have hl := spelling_le_of_numberType h
            omega
          · cases h

end Lexeme

/-! ## Cutting -/

/-- Cuts a text into gaps and lexemes. -/
def lex (text : List Char) : Lexing :=
  let gap := (text.takeWhile Text.isBlank).length
  match _hd : text.dropWhile Text.isBlank with
  | [] => .finished gap
  | c :: rest =>
    match _hr : Lexeme.read (c :: rest) with
    | .failed width cause => .stuck gap width cause
    | .took width lexeme => .lexeme gap width lexeme (lex ((c :: rest).drop width))
termination_by text.length
decreasing_by
  have hw := Lexeme.width_pos_of_read _hr
  have hl := (List.dropWhile_sublist Text.isBlank (l := text)).length_le
  simp only [_hd, List.length_cons] at hl
  simp only [List.length_drop, List.length_cons]
  omega

/-- One step of cutting: a gap, then a lexeme, a failure, or nothing. -/
theorem lex_eq (text : List Char) :
    lex text =
      match text.dropWhile Text.isBlank with
      | [] => .finished (text.takeWhile Text.isBlank).length
      | c :: rest =>
        match Lexeme.read (c :: rest) with
        | .failed width cause => .stuck (text.takeWhile Text.isBlank).length width cause
        | .took width lexeme =>
          .lexeme (text.takeWhile Text.isBlank).length width lexeme
            (lex ((c :: rest).drop width)) := by
  rw [lex]
  split
  · rename_i h
    rw [h]
  · rename_i c rest h
    simp only [h]
    split <;> simp_all

end ScriptFront
