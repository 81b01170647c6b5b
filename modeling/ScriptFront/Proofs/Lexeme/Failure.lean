import ScriptFront.Proofs.Lexeme.Reading

/-!
# How reading a lexeme fails

`Lexeme.Fails` lists every way in which no lexeme can be read off the front of a text, with the
characters consumed and the cause. The main statements:

* `fails_of_read` and `Fails.read_eq`: the reader fails in these ways and in no other;
* `Fails.append`: a failure stays what it is if the text goes on, unless it is premature;
* `Fails.exists_spells`: a premature failure is a lexeme that has not been finished.
-/

namespace ScriptFront

/-- Whether a failure is due to the end of the text: inside a literal, after the mark of unsigned
types, or after one of the two characters that are symbols only as a pair. -/
def Cause.IsPremature : Cause → List Char → Prop
  | unterminatedLiteral, _ => True
  | missingIntegerType, _ => True
  | unexpectedCharacter _, text => text = ['&'] ∨ text = ['|']
  | _, _ => False

namespace Lexeme

/-- How reading off the front of a text can fail, and after how many characters. A character that
stands for no number type is consumed, one that stands for no integer type is not. -/
inductive Fails : List Char → Nat → Cause → Prop where
  | literal {rest : List Char} (hrest : literalBody rest = none) :
      Fails ('\x22' :: rest) (rest.length + 1) .unterminatedLiteral
  | point {n : Numeral} (rest : List Char) (hn : n.IsPlain) (hpoint : n.fraction.isSome = true) :
      Fails (n.spelling ++ '.' :: rest) n.spelling.length .secondPoint
  | noSize {n : Numeral} {mark : Char} (hn : n.IsPlain) (hmark : isUnsignedMark mark = true) :
      Fails (n.spelling ++ [mark]) (n.spelling.length + 1) .missingIntegerType
  | size {n : Numeral} {mark c : Char} (rest : List Char) (hn : n.IsPlain)
      (hmark : isUnsignedMark mark = true) (hc : IntegerSize.ofSuffix? c = none) :
      Fails (n.spelling ++ mark :: c :: rest) (n.spelling.length + 1) (.unknownIntegerType c)
  | type {n : Numeral} {c : Char} (rest : List Char) (hn : n.IsPlain) (hdigit : c.isDigit = false)
      (hmark : isUnsignedMark c = false) (hspace : Text.isSpace c = false)
      (hsymbol : Symbol.isSymbolChar c = false) (hc : NumberKind.ofSuffix? c = none) :
      Fails (n.spelling ++ c :: rest) (n.spelling.length + 1) (.unknownNumberType c)
  | character {c : Char} {rest : List Char} (hquote : c ≠ '\x22') (halpha : c.isAlpha = false)
      (hdigit : c.isDigit = false) (hsymbol : Symbol.longest? (c :: rest) = none) :
      Fails (c :: rest) 0 (.unexpectedCharacter c)

/-! ## The reader fails in these ways -/

/-- What cannot be read after a numeral. -/
theorem fails_of_numberType {n : Numeral} {rest : List Char} {width : Nat} {cause : Cause}
    (hn : n.IsPlain) (hdigit : ∀ c ∈ rest.head?, c.isDigit = false)
    (h : numberType n rest = .failed width cause) : Fails (n.spelling ++ rest) width cause := by
  cases rest with
  | nil => cases h
  | cons c rest =>
    -- the cases are split in the order in which the reader asks for them
    unfold numberType at h
    dsimp only at h
    by_cases hpoint : (c == '.' && n.fraction.isSome) = true
    · rw [if_pos hpoint] at h
      cases h
      rw [Bool.and_eq_true, beq_iff_eq] at hpoint
      rw [hpoint.1]
      exact .point rest hn hpoint.2
    · rw [if_neg hpoint] at h
      by_cases hmark : isUnsignedMark c = true
      · rw [if_pos hmark, hn.1, if_neg Bool.false_ne_true] at h
        cases rest with
        | nil =>
          cases h
          exact .noSize hn hmark
        | cons d rest =>
          unfold unsignedNumber at h
          cases hd : IntegerSize.ofSuffix? d with
          | none =>
            simp only [hd] at h
            cases h
            exact .size rest hn hmark hd
          | some size =>
            simp only [hd] at h
            cases h
      · rw [if_neg hmark] at h
        by_cases hends : (Text.isSpace c || Symbol.isSymbolChar c) = true
        · rw [if_pos hends] at h
          cases h
        · rw [if_neg hends] at h
          cases hc : NumberKind.ofSuffix? c with
          | none =>
            simp only [hc] at h
            cases h
            rw [Bool.not_eq_true, Bool.or_eq_false_iff] at hends
            rw [Bool.not_eq_true] at hmark
            exact .type rest hn (hdigit c rfl) hmark hends.1 hends.2 hc
          | some type =>
            simp only [hc] at h
            cases h

/-- Where something is left to read, reading fails only in these ways. -/
theorem fails_of_read {text : List Char} {width : Nat} {cause : Cause} (hne : text ≠ [])
    (h : read text = .failed width cause) : Fails text width cause := by
  obtain ⟨c, rest, rfl⟩ := List.exists_cons_of_ne_nil hne
  unfold read at h
  dsimp only at h
  by_cases hquote : c = '\x22'
  · rw [if_pos hquote, literal] at h
    cases hbody : literalBody rest with
    | none =>
      simp only [hbody] at h
      cases h
      rw [hquote]
      exact .literal hbody
    | some body =>
      simp only [hbody] at h
      cases h
  · rw [if_neg hquote] at h
    by_cases halpha : c.isAlpha = true
    · rw [if_pos halpha] at h
      cases h
    · rw [if_neg halpha] at h
      cases hsymbol : Symbol.longest? (c :: rest) with
      | some s =>
        simp only [hsymbol] at h
        cases h
      | none =>
        simp only [hsymbol] at h
        by_cases hdigit : c.isDigit = true
        · rw [if_pos hdigit, number] at h
          obtain ⟨hplain, hnext, -⟩ := Numeral.isPlain_split rest hdigit
          have hfails := fails_of_numberType hplain hnext h
          rw [Numeral.split_spelling] at hfails
          exact hfails
        · rw [if_neg hdigit] at h
          cases h
          rw [Bool.not_eq_true] at halpha hdigit
          exact .character hquote halpha hdigit hsymbol

theorem classes_of_isUnsignedMark {c : Char} (h : isUnsignedMark c = true) :
    c.isDigit = false ∧ c ≠ '.' := by
  simp only [isUnsignedMark, Bool.or_eq_true, beq_iff_eq] at h
  rcases h with rfl | rfl <;> decide

/-- A character that cannot follow a numeral is not the point, which is a symbol. -/
theorem ne_point_of_not_isSymbolChar {c : Char} (h : Symbol.isSymbolChar c = false) : c ≠ '.' := by
  rintro rfl
  exact absurd h (by decide)

/-- After a plain numeral and a character that does not continue it, reading goes on with the
type. -/
theorem read_numeral_cons {n : Numeral} {c : Char} (rest : List Char) (hn : n.IsPlain)
    (hdigit : c.isDigit = false) (hpoint : c ≠ '.') :
    read (n.spelling ++ c :: rest) = numberType n (c :: rest) := by
  apply read_numeral hn
  · intro d hd
    cases hd
    exact hdigit
  · intro _ d hd
    cases hd
    exact hpoint

/-- Reading does fail in each of these ways. -/
theorem Fails.read_eq {text : List Char} {width : Nat} {cause : Cause}
    (h : Fails text width cause) : read text = .failed width cause := by
  cases h with
  | literal hrest =>
    rw [read, if_pos rfl, Lexeme.literal]
    simp only [hrest]
  | point rest hn hpoint =>
    -- the point does not continue the numeral, which has one already
    rw [read_numeral hn]
    · simp [numberType, hpoint]
    · intro c hc
      cases hc
      decide
    · intro hnone
      rw [hnone] at hpoint
      cases hpoint
  | noSize hn hmark =>
    obtain ⟨hdigit, hpoint⟩ := classes_of_isUnsignedMark hmark
    rw [read_numeral_cons [] hn hdigit hpoint]
    simp [numberType, hpoint, hmark, hn.1, unsignedNumber]
  | size rest hn hmark hsize =>
    obtain ⟨hdigit, hpoint⟩ := classes_of_isUnsignedMark hmark
    rw [read_numeral_cons _ hn hdigit hpoint]
    simp [numberType, hpoint, hmark, hn.1, unsignedNumber, hsize]
  | type rest hn hdigit hmark hspace hsymbol htype =>
    have hpoint := ne_point_of_not_isSymbolChar hsymbol
    rw [read_numeral_cons _ hn hdigit hpoint]
    simp [numberType, hpoint, hmark, hspace, hsymbol, htype]
  | character hquote halpha hdigit hsymbol =>
    rw [read, if_neg hquote, halpha, if_neg Bool.false_ne_true, hsymbol, hdigit]
    rfl

/-- A failure is inside the text or at its end. -/
theorem Fails.width_le {text : List Char} {width : Nat} {cause : Cause}
    (h : Fails text width cause) : width ≤ text.length := by
  cases h with
  | literal hrest => exact Nat.le_refl _
  | point rest hn hpoint => simp
  | noSize hn hmark => simp
  | size rest hn hmark hsize => simp
  | type rest hn hdigit hmark hspace hsymbol htype => simp
  | character hquote halpha hdigit hsymbol => exact Nat.zero_le _

/-! ## Failures of a text that goes on -/

/-- A pair of characters is a symbol only if its first character is one, but for two pairs. -/
theorem isSymbolChar_of_pair {c d : Char} {s : Symbol} (h : Symbol.ofSpelling? [c, d] = some s) :
    Symbol.isSymbolChar c = true ∨ c = '&' ∨ c = '|' := by
  have hs := Symbol.spelling_of_ofSpelling? h
  have hall : s.spelling.length = 2 →
      (s.spelling.head?.all fun a => Symbol.isSymbolChar a || a == '&' || a == '|') = true := by
    cases s <;> decide
  rw [hs] at hall
  simpa [or_assoc] using hall rfl

/-- No more than two characters are looked at. -/
theorem longest?_eq_none_iff {text : List Char} :
    Symbol.longest? text = none ↔
      Symbol.ofSpelling? (text.take 2) = none ∧ Symbol.ofSpelling? (text.take 1) = none := by
  rw [Symbol.longest?, Symbol.maxLength_eq]
  simp [Symbol.longestWithin?]

/-- Where no symbol starts, none does if the text goes on, but for a character that may become one
of the two pairs. -/
theorem longest?_append_eq_none {c : Char} {rest : List Char}
    (h : Symbol.longest? (c :: rest) = none) (hpair : ¬ (c :: rest = ['&'] ∨ c :: rest = ['|']))
    (more : List Char) : Symbol.longest? (c :: (rest ++ more)) = none := by
  rw [longest?_eq_none_iff] at h ⊢
  cases rest with
  | cons d rest => exact h
  | nil =>
    have hone : Symbol.ofSpelling? [c] = none := h.2
    cases more with
    | nil => exact h
    | cons d more =>
      have htwo : Symbol.ofSpelling? [c, d] = none := by
        cases htwo : Symbol.ofSpelling? [c, d] with
        | none => rfl
        | some s =>
          rcases isSymbolChar_of_pair htwo with hchar | rfl | rfl
          · rw [Symbol.isSymbolChar, hone] at hchar
            cases hchar
          · exact absurd (Or.inl rfl) hpair
          · exact absurd (Or.inr rfl) hpair
      exact ⟨htwo, hone⟩

/-- A failure that is not premature stays what it is if the text goes on. -/
theorem Fails.append {text : List Char} {width : Nat} {cause : Cause}
    (h : Fails text width cause) (hcause : ¬ cause.IsPremature text) (more : List Char) :
    Fails (text ++ more) width cause := by
  cases h with
  | literal hrest => exact absurd trivial hcause
  | point rest hn hpoint =>
    rw [List.append_assoc]
    exact .point (rest ++ more) hn hpoint
  | noSize hn hmark => exact absurd trivial hcause
  | size rest hn hmark hsize =>
    rw [List.append_assoc]
    exact .size (rest ++ more) hn hmark hsize
  | type rest hn hdigit hmark hspace hsymbol htype =>
    rw [List.append_assoc]
    exact .type (rest ++ more) hn hdigit hmark hspace hsymbol htype
  | character hquote halpha hdigit hsymbol =>
    exact .character hquote halpha hdigit (longest?_append_eq_none hsymbol hcause more)

/-- An open literal can be closed. After a backslash that takes along what comes next, one more
character is needed. -/
theorem exists_closed_of_literalBody {rest : List Char} (h : literalBody rest = none) :
    ∃ more body, LiteralBody body ∧ rest ++ more = body ++ ['\x22'] := by
  induction rest using literalBody.induct with
  | case1 => exact ⟨['\x22'], [], .nil, rfl⟩
  | case2 rest => cases h
  | case3 c rest ih =>
    rw [literalBody, Option.map_eq_none_iff] at h
    obtain ⟨more, body, hbody, hmore⟩ := ih h
    refine ⟨more, '\\' :: c :: body, .escaped c hbody, ?_⟩
    rw [List.cons_append, List.cons_append, hmore, List.cons_append, List.cons_append]
  | case4 => exact ⟨['\\', '\x22'], ['\\', '\\'], .escaped '\\' .nil, rfl⟩
  | case5 c rest hquote hescape hlone ih =>
    have hc : c ≠ '\\' := by
      intro hc
      cases rest with
      | nil => exact hlone hc rfl
      | cons d tail => exact hescape d tail hc rfl
    rw [literalBody, Option.map_eq_none_iff] at h
    · obtain ⟨more, body, hbody, hmore⟩ := ih h
      refine ⟨more, c :: body, .plain hquote hc hbody, ?_⟩
      rw [List.cons_append, hmore, List.cons_append]
    · exact hquote
    · exact hescape
    · exact hlone

/-- A premature failure is a lexeme that more characters can finish. -/
theorem Fails.exists_spells {text : List Char} {width : Nat} {cause : Cause}
    (h : Fails text width cause) (hcause : cause.IsPremature text) :
    ∃ (more : List Char) (k : Kind), k.Spells (text ++ more) := by
  cases h with
  | literal hrest =>
    obtain ⟨more, body, hbody, hmore⟩ := exists_closed_of_literalBody hrest
    refine ⟨more, .literal, body, hbody, ?_⟩
    rw [List.cons_append, hmore]
  | point rest hn hpoint => exact absurd hcause id
  | @noSize n mark hn hmark =>
    have hsuffix : ([mark, 'i'], NumberKind.unsigned .int) ∈ NumberKind.typeSuffixes :=
      NumberKind.mem_typeSuffixes_of_mark hmark rfl
    refine ⟨['i'], .number (.unsigned .int), n, [mark, 'i'], hn, .inr hsuffix, ?_⟩
    rw [List.append_assoc, List.singleton_append]
  | size rest hn hmark hsize => exact absurd hcause id
  | type rest hn hdigit hmark hspace hsymbol htype => exact absurd hcause id
  | character hquote halpha hdigit hsymbol =>
    rcases hcause with htext | htext
    · exact ⟨['&'], .symbol .and, by rw [htext]; rfl⟩
    · exact ⟨['|'], .symbol .or, by rw [htext]; rfl⟩

end Lexeme

end ScriptFront
