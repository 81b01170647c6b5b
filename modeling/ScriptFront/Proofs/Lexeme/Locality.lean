import ScriptFront.Proofs.Lexeme.Failure

/-!
# How far reading looks

Reading a lexeme looks at the characters of the lexeme and at one more at most. So it does not
matter what comes after that character:

* `read_append_of_lt`: a lexeme is read off any longer text, if a character stands after it;
* `read_append_of_isBlank`: a lexeme at the end of its text is still read if a blank comes next;
* `read_append_of_failed`: a failure that is not premature is met in any longer text.
-/

namespace ScriptFront

namespace Lexeme

/-! ## Lexemes before a character -/

/-- Nothing is read of a literal after its closing quote. -/
theorem literalBody_append {text : List Char} {body : List Char × Nat}
    (h : literalBody text = some body) (more : List Char) :
    literalBody (text ++ more) = some body := by
  obtain ⟨inside, after, hinside, htext, -⟩ := exists_body_of_literalBody h
  obtain ⟨value, hvalue⟩ := hinside.exists_value
  rw [htext, hvalue after] at h
  rw [htext, List.append_assoc, List.cons_append, hvalue (after ++ more), h]

/-- A word ends at its first other character. -/
theorem word_append {text : List Char} (h : (text.takeWhile Char.isAlpha).length < text.length)
    (more : List Char) : word (text ++ more) = word text := by
  have hrun : (text ++ more).takeWhile Char.isAlpha = text.takeWhile Char.isAlpha := by
    rw [List.takeWhile_append, if_neg (by omega)]
  rw [word, word, hrun]

/-- The type of a number is settled by the characters that it is read from. -/
theorem numberType_append {n : Numeral} {c : Char} {rest : List Char} {width : Nat}
    {lexeme : Lexeme} (h : numberType n (c :: rest) = .took width lexeme) (more : List Char) :
    numberType n (c :: (rest ++ more)) = .took width lexeme := by
  cases rest with
  | cons d rest =>
    -- after a mark one more character is looked at, and it is here
    exact h
  | nil =>
    have hmark : isUnsignedMark c = false := by
      rw [Bool.eq_false_iff]
      intro hmark
      have hpoint := (classes_of_isUnsignedMark hmark).2
      cases hn : n.negative <;> simp [numberType, hpoint, hmark, hn, unsignedNumber] at h
    unfold numberType at h ⊢
    dsimp only at h ⊢
    rw [hmark, if_neg Bool.false_ne_true] at h ⊢
    exact h

/-- A number is read off any longer text, if a character stands after it. -/
theorem read_append_of_isDigit {c : Char} {rest : List Char} {width : Nat} {lexeme : Lexeme}
    (hc : c.isDigit = true) (h : read (c :: rest) = .took width lexeme)
    (hwidth : width < (c :: rest).length) (more : List Char) :
    read (c :: rest ++ more) = .took width lexeme := by
  obtain ⟨hplain, hdigit, hpoint⟩ := Numeral.isPlain_split rest hc
  have htext := Numeral.split_spelling (c :: rest)
  rw [read_of_isDigit hc, number] at h
  cases hafter : (Numeral.split (c :: rest)).2 with
  | nil =>
    -- then the numeral would be the whole text
    rw [hafter] at h htext
    cases h
    rw [List.append_nil] at htext
    rw [htext] at hwidth
    exact absurd hwidth (Nat.lt_irrefl _)
  | cons d after =>
    rw [hafter] at h htext hdigit hpoint
    have hread : read ((Numeral.split (c :: rest)).1.spelling ++ d :: (after ++ more)) =
        numberType (Numeral.split (c :: rest)).1 (d :: (after ++ more)) :=
      read_numeral hplain hdigit hpoint
    rw [← htext, List.append_assoc, List.cons_append, hread]
    exact numberType_append h more

/-- A lexeme is read off any longer text, if a character stands after it. -/
theorem read_append_of_lt {text : List Char} {width : Nat} {lexeme : Lexeme}
    (h : read text = .took width lexeme) (hwidth : width < text.length) (more : List Char) :
    read (text ++ more) = .took width lexeme := by
  cases text with
  | nil => cases h
  | cons c rest =>
    by_cases hdigit : c.isDigit = true
    · exact read_append_of_isDigit hdigit h hwidth more
    · rw [List.cons_append]
      unfold read at h ⊢
      dsimp only at h ⊢
      by_cases hquote : c = '\x22'
      · rw [if_pos hquote, literal] at h ⊢
        cases hbody : literalBody rest with
        | none =>
          rw [hbody] at h
          cases h
        | some body =>
          rw [hbody] at h
          rw [literalBody_append hbody more]
          exact h
      · rw [if_neg hquote] at h ⊢
        by_cases halpha : c.isAlpha = true
        · rw [if_pos halpha] at h ⊢
          have hrun : ((c :: rest).takeWhile Char.isAlpha).length = width := by
            cases h
            rfl
          rw [← List.cons_append, word_append (by omega)]
          exact h
        · rw [if_neg halpha] at h ⊢
          cases rest with
          | nil =>
            -- a single character is a symbol of its own or nothing
            have hread : read [c] = .took width lexeme := by
              rw [read, if_neg hquote, if_neg halpha]
              exact h
            have hpos := width_pos_of_read hread
            rw [List.length_singleton] at hwidth
            omega
          | cons d rest =>
            rw [if_neg hdigit] at h ⊢
            exact h

/-! ## Lexemes before a blank -/

/-- Any lexeme may end before a blank. -/
theorem endsBefore_of_isBlank (k : Kind) (text : List Char) {after : List Char}
    (h : ∀ c ∈ after.head?, Text.isBlank c = true) : k.EndsBefore text after := by
  cases k with
  | word =>
    intro c hc
    exact (Text.classes_of_isSpace (Text.isSpace_of_isBlank (h c hc))).2.1
  | symbol s =>
    intro c hc t ht
    have hmem : c ∈ t.spelling := by
      rw [ht]
      exact List.mem_append_right _ (List.mem_singleton.mpr rfl)
    have hspace := (Symbol.mem_spelling hmem).2.2.2
    rw [Text.isSpace_of_isBlank (h c hc)] at hspace
    cases hspace
  | literal => trivial
  | number type =>
    intro _ c hc
    exact Or.inl (h c hc)

/-- A lexeme is read off a text that goes on in a way in which the lexeme may end. -/
theorem read_append_of_endsBefore {text : List Char} {width : Nat} {lexeme : Lexeme}
    (h : read text = .took width lexeme) {more : List Char}
    (hmore : ∀ spelling, lexeme.kind.Spells spelling → lexeme.kind.EndsBefore spelling more) :
    read (text ++ more) = .took width lexeme := by
  obtain ⟨spelling, after, rfl, rfl, hspells, -⟩ := spells_of_read h
  cases after with
  | cons c after =>
    apply read_append_of_lt h
    rw [List.length_append, List.length_cons]
    omega
  | nil =>
    -- the lexeme is the whole text, and its value is the same wherever it may end
    rw [List.append_nil] at h ⊢
    obtain ⟨value, hvalue⟩ := exists_read hspells
    have hbare := hvalue [] (lexeme.kind.endsBefore_nil spelling)
    rw [List.append_nil, h] at hbare
    rw [hvalue more (hmore spelling hspells), hbare]

/-- A lexeme is read off a text that goes on with a blank. -/
theorem read_append_of_isBlank {text : List Char} {width : Nat} {lexeme : Lexeme}
    (h : read text = .took width lexeme) {more : List Char}
    (hmore : ∀ c ∈ more.head?, Text.isBlank c = true) :
    read (text ++ more) = .took width lexeme :=
  read_append_of_endsBefore h fun spelling _ => endsBefore_of_isBlank lexeme.kind spelling hmore

/-! ## Failures -/

/-- A failure that is not premature is met in any longer text. -/
theorem read_append_of_failed {text : List Char} {width : Nat} {cause : Cause} (hne : text ≠ [])
    (h : read text = .failed width cause) (hcause : ¬ cause.IsPremature text)
    (more : List Char) : read (text ++ more) = .failed width cause :=
  ((fails_of_read hne h).append hcause more).read_eq

/-- A text on which reading fails prematurely goes on to a text that is one lexeme. -/
theorem exists_read_append {text : List Char} {width : Nat} {cause : Cause} (hne : text ≠ [])
    (h : read text = .failed width cause) (hcause : cause.IsPremature text) :
    ∃ more lexeme, read (text ++ more) = .took (text ++ more).length lexeme := by
  obtain ⟨more, k, hspells⟩ := (fails_of_read hne h).exists_spells hcause
  obtain ⟨value, hvalue⟩ := exists_read hspells
  have hbare := hvalue [] (k.endsBefore_nil _)
  rw [List.append_nil] at hbare
  exact ⟨more, ⟨k, value⟩, hbare⟩

end Lexeme

end ScriptFront
