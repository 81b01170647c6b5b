import ScriptFront.Proofs.Lexing.Outcome

/-!
# Spellings of a literal

The same text can be spelled in many ways inside a literal, since most characters may stand after a
backslash or alone. `LiteralSpelling` lists these ways, and reading undoes all of them:

* `LiteralSpelling.literalBody_eq`: whatever the spelling and whatever follows, the text is read;
* `LiteralBody.exists_spelling`: every literal that can be read is spelled in one of these ways;
* `literalBody_eq_none_iff`: a literal cannot be read only if no quote closes it.

`literal_spelled` says so of a cursor at any quote of a source.
-/

namespace ScriptFront

/-! ## Spellings -/

/-- How a character can be spelled inside a literal: as itself, unless it is a quote or a backslash;
after a backslash, unless it is one of the letters that stand for something else there; and a tab
and a newline by these letters. -/
inductive CharSpelling : Char → List Char → Prop where
  | plain {c : Char} (hquote : c ≠ '\x22') (hbackslash : c ≠ '\\') : CharSpelling c [c]
  | escaped {c : Char} (htab : c ≠ 't') (hnewline : c ≠ 'n') : CharSpelling c ['\\', c]
  | tab : CharSpelling '\t' ['\\', 't']
  | newline : CharSpelling '\n' ['\\', 'n']

/-- How a text can be spelled inside a literal: one character after the other. -/
inductive LiteralSpelling : List Char → List Char → Prop where
  | nil : LiteralSpelling [] []
  | cons {c : Char} {part value body : List Char} (hc : CharSpelling c part)
      (hvalue : LiteralSpelling value body) : LiteralSpelling (c :: value) (part ++ body)

/-- Whether some characters have no quote that would close a literal: each quote among them is taken
along by a backslash. -/
def Unclosed (text : List Char) : Prop :=
  ∀ body after, text = body ++ '\x22' :: after → ¬ LiteralBody body

/-- A letter that stands for nothing else is itself after a backslash. -/
theorem Lexeme.unescape_eq_self {c : Char} (htab : c ≠ 't') (hnewline : c ≠ 'n') :
    unescape c = c := by
  have ht : (c == 't') = false := beq_eq_false_iff_ne.mpr htab
  have hn : (c == 'n') = false := beq_eq_false_iff_ne.mpr hnewline
  rw [unescape, escapes, List.lookup_cons, hn, List.lookup_cons, ht]
  rfl

/-- Reading a body goes on after the spelling of its first character. -/
theorem CharSpelling.literalBody_append {c : Char} {part : List Char} (h : CharSpelling c part)
    (rest : List Char) :
    Lexeme.literalBody (part ++ rest) =
      (Lexeme.literalBody rest).map fun body => (c :: body.1, body.2 + part.length) := by
  cases h with
  | plain hquote hbackslash =>
    show Lexeme.literalBody (c :: rest) = _
    rw [Lexeme.literalBody]
    · rfl
    · exact hquote
    · intro d tail hc
      exact absurd hc hbackslash
    · intro hc
      exact absurd hc hbackslash
  | escaped htab hnewline =>
    show Lexeme.literalBody ('\\' :: c :: rest) = _
    rw [Lexeme.literalBody, Lexeme.unescape_eq_self htab hnewline]
    rfl
  | tab => rfl
  | newline => rfl

/-- A text is read from each of its spellings, up to the closing quote. -/
theorem LiteralSpelling.literalBody_eq {value body : List Char} (h : LiteralSpelling value body)
    (after : List Char) :
    Lexeme.literalBody (body ++ '\x22' :: after) = some (value, body.length + 1) := by
  induction h with
  | nil => rfl
  | @cons c part value body hc _ ih =>
    rw [List.append_assoc, hc.literalBody_append, ih, Option.map_some, List.length_append]
    congr 2
    omega

/-- The body of a literal is a spelling. -/
theorem LiteralBody.exists_spelling {body : List Char} (h : LiteralBody body) :
    ∃ value, LiteralSpelling value body := by
  induction h with
  | nil => exact ⟨[], .nil⟩
  | @plain c rest hquote hbackslash _ ih =>
    obtain ⟨value, hvalue⟩ := ih
    exact ⟨c :: value, .cons (.plain hquote hbackslash) hvalue⟩
  | @escaped c rest _ ih =>
    obtain ⟨value, hvalue⟩ := ih
    by_cases htab : c = 't'
    · rw [htab]
      exact ⟨'\t' :: value, .cons .tab hvalue⟩
    · by_cases hnewline : c = 'n'
      · rw [hnewline]
        exact ⟨'\n' :: value, .cons .newline hvalue⟩
      · exact ⟨c :: value, .cons (.escaped htab hnewline) hvalue⟩

namespace Lexeme

/-- Nothing is read if no quote closes the literal, and only then. -/
theorem literalBody_eq_none_iff {text : List Char} : literalBody text = none ↔ Unclosed text := by
  constructor
  · rintro hnone body after rfl hbody
    obtain ⟨value, hvalue⟩ := hbody.exists_value
    rw [hvalue] at hnone
    cases hnone
  · intro hunclosed
    cases hread : literalBody text with
    | none => rfl
    | some result =>
      obtain ⟨body, after, hbody, htext, -⟩ := exists_body_of_literalBody hread
      exact absurd hbody (hunclosed body after htext)

end Lexeme

/-! ## Literals at a cursor -/

namespace TextCursor

/-- Where a lexeme stands at the cursor, it is the next token, and the cursor moves over it. -/
theorem next_of_took {k : TextCursor} {c : Char} {rest : List Char} (hrest : k.rest = c :: rest)
    {width : Nat} {lexeme : Lexeme} (hread : Lexeme.read (c :: rest) = .took width lexeme) :
    k.next = (.ok (some (k.token width lexeme)), k.move width) := by
  have hskip : k.skipBlanks = k := by
    have hc : Text.isBlank c = false := Lexeme.not_isBlank_of_read hread c rfl
    rw [skipBlanks, hrest, List.takeWhile_cons_of_neg (by simp [hc])]
    rfl
  unfold next
  rw [hskip]
  dsimp only
  rw [hrest, hread]
  rfl

/-- What is left at an offset of a source is what stands behind the characters before it. -/
theorem rest_move_start {source : String} (margin : Int) {before after : List Char}
    (h : source.toList = before ++ after) :
    ((start source margin).move before.length).rest = after := by
  rw [rest_move]
  show source.toList.drop before.length = after
  rw [h, List.drop_left]

/-- A literal that no quote closes ends reading at the end of the source. -/
theorem perform_literal_of_unclosed {source : String} (margin : Int) {before after : List Char}
    (h : source.toList = before ++ '\x22' :: after) (hunclosed : Unclosed after) :
    (((start source margin).move before.length).perform .literal).1 =
      .error (((start source margin).move source.length).error .unterminatedLiteral).failure := by
  have hlength : source.length = before.length + (after.length + 1) := by
    rw [← String.length_toList, h, List.length_append, List.length_cons]
  rw [perform, rest_move_start margin h, Lexeme.literal,
    Lexeme.literalBody_eq_none_iff.mpr hunclosed, hlength, move_add]
  rfl

/-- Only a literal that no quote closes ends reading. -/
theorem unclosed_of_perform_literal {source : String} {margin : Int} {before after : List Char}
    (h : source.toList = before ++ '\x22' :: after) {failure : Failure LexError Breakdown}
    (hfailed : (((start source margin).move before.length).perform .literal).1 =
      .error failure) : Unclosed after := by
  rw [perform, rest_move_start margin h, Lexeme.literal] at hfailed
  apply Lexeme.literalBody_eq_none_iff.mp
  cases hbody : Lexeme.literalBody after with
  | none => rfl
  | some body =>
    rw [hbody] at hfailed
    cases hfailed

/-- A literal is the next token where one of its spellings stands between quotes. -/
theorem next_of_spelling {k : TextCursor} {value body rest : List Char}
    (hrest : k.rest = '\x22' :: (body ++ '\x22' :: rest)) (h : LiteralSpelling value body) :
    k.next = (.ok (some (k.token (2 + body.length) ⟨.literal, .text (String.ofList value)⟩)),
      k.move (2 + body.length)) := by
  have hread : Lexeme.read ('\x22' :: (body ++ '\x22' :: rest)) =
      .took (2 + body.length) ⟨.literal, .text (String.ofList value)⟩ := by
    rw [Lexeme.read, if_pos rfl, Lexeme.literal, h.literalBody_eq rest, Nat.add_comm 2]
  exact next_of_took hrest hread

/-- So at any quote of a source that a spelling and another quote follow. -/
theorem perform_next_of_spelling {source value : String} (margin : Int)
    {before rest body : List Char}
    (h : source.toList = before ++ '\x22' :: (body ++ '\x22' :: rest))
    (hvalue : LiteralSpelling value.toList body) :
    let k := (start source margin).move before.length
    k.perform .next =
        (.ok (.token (some ⟨.literal, .text value, ⟨(Place.after margin before).row,
          (Place.after margin before).column, before.length, 2 + body.length⟩⟩)),
          k.move (2 + body.length)) ∧
      (k.move (2 + body.length)).rest = rest := by
  have hrest := rest_move_start margin h
  have hnext := next_of_spelling hrest hvalue
  have hlength : before.length ≤ source.length := by
    rw [← String.length_toList, h, List.length_append]
    omega
  constructor
  · rw [perform, hnext, token, String.ofList_toList, place_move_start source margin hlength, h,
      List.take_left]
    rfl
  · rw [rest_move, hrest]
    show (('\x22' :: body) ++ '\x22' :: rest).drop _ = rest
    rw [List.append_cons, List.drop_left' (by simp; omega)]

/-- The error at the end of a source. -/
theorem error_move_length (source : String) (margin : Int) (cause : Cause) :
    ((start source margin).move source.length).error cause =
      { text := cause.message, kind := cause.kind,
        row := (Place.after margin source.toList).row,
        column := (Place.after margin source.toList).column,
        offset := source.length, source := source, margin := margin } := by
  have hend := error_move_start source margin (Nat.le_refl source.length) cause
  rw [← String.length_toList, List.take_length, String.length_toList] at hend
  exact hend

end TextCursor

/-- A token that is a literal is read from a spelling of its value between quotes. -/
theorem Token.IsReadFrom.exists_spelling {t : Token} {source : List Char}
    (h : t.IsReadFrom source) (hkind : t.kind = .literal) :
    ∃ (value : String) (body : List Char), t.value = .text value ∧
      LiteralSpelling value.toList body ∧ t.slice source = '\x22' :: (body ++ ['\x22']) := by
  obtain ⟨front, spelling, after, rfl, hoffset, hlength, hspells, -, hread⟩ := h
  rw [hkind] at hspells hread
  obtain ⟨body, hbody, rfl⟩ := hspells
  obtain ⟨value, hvalue⟩ := hbody.exists_spelling
  rw [Lexeme.read, if_pos rfl, Lexeme.literal, hvalue.literalBody_eq] at hread
  simp only [Reading.took.injEq, Lexeme.mk.injEq] at hread
  refine ⟨String.ofList value, body, hread.2.2.symm, ?_, slice_eq after hoffset hlength⟩
  rw [String.toList_ofList]
  exact hvalue

/-- The literals of a source, read at a quote that stands behind some characters: any spelling of a
text between quotes is the next token, with this text as its value and the length of the spelling
with its quotes, and the cursor then stands right behind it. Each token of the source that is a
literal spans a spelling of its value between quotes. And reading a literal meets an error at the
end of the source if no quote closes it, and only then. The error is reported, unless its row or its
column has too many digits to be written, and this takes a source or a margin that is enormous. -/
theorem literal_spelled (source : String) (margin : Int) :
    (∀ (before rest body : List Char) (value : String),
      source.toList = before ++ '\x22' :: (body ++ '\x22' :: rest) →
      LiteralSpelling value.toList body →
        let k := (TextCursor.start source margin).move before.length
        k.perform .next =
            (.ok (.token (some ⟨.literal, .text value, ⟨(Place.after margin before).row,
              (Place.after margin before).column, before.length, 2 + body.length⟩⟩)),
              k.move (2 + body.length)) ∧
          (k.move (2 + body.length)).rest = rest) ∧
    (∀ tokens, tokenize source margin = .ok tokens → ∀ t ∈ tokens, t.kind = .literal →
      ∃ (value : String) (body : List Char), t.value = .text value ∧
        LiteralSpelling value.toList body ∧
        t.slice source.toList = '\x22' :: (body ++ ['\x22'])) ∧
    ∀ before after, source.toList = before ++ '\x22' :: after →
      let result := (((TextCursor.start source margin).move before.length).perform .literal).1
      ((∃ e : LexError, result = .error (if Text.isWritable e.row && Text.isWritable e.column then
            .reported e else .abort .integerTooLong) ∧
          e.kind = some .unterminatedString ∧ e.offset = source.length ∧
          e.row = (Place.after margin source.toList).row ∧
          e.column = (Place.after margin source.toList).column) ↔ Unclosed after) ∧
      (1 + source.length + margin.natAbs < Text.unwritable →
        ((∃ e : LexError, result = .error (.reported e) ∧ e.kind = some .unterminatedString ∧
          e.offset = source.length) ↔ Unclosed after)) := by
  refine ⟨?_, ?_, ?_⟩
  · intro before rest body value hsource hvalue
    exact TextCursor.perform_next_of_spelling margin hsource hvalue
  · intro tokens htokens t ht hkind
    exact (isReadFrom_of_tokenize htokens t ht).exists_spelling hkind
  · intro before after hsource
    have herror := TextCursor.error_move_length source margin .unterminatedLiteral
    constructor
    · constructor
      · rintro ⟨e, he, -⟩
        exact TextCursor.unclosed_of_perform_literal hsource he
      · intro hunclosed
        refine ⟨_, TextCursor.perform_literal_of_unclosed margin hsource hunclosed, ?_⟩
        rw [herror]
        exact ⟨rfl, rfl, rfl, rfl⟩
    · intro hsmall
      constructor
      · rintro ⟨e, he, -⟩
        exact TextCursor.unclosed_of_perform_literal hsource he
      · intro hunclosed
        have hfailed := TextCursor.perform_literal_of_unclosed margin hsource hunclosed
        rw [TextCursor.failure_eq_reported (Nat.le_refl _) hsmall] at hfailed
        refine ⟨_, hfailed, ?_⟩
        rw [herror]
        exact ⟨rfl, rfl⟩

/-- A quote alone is not closed, but with the largest margin that can be written, the column behind
it cannot, and so the error is not reported. -/
theorem literal_unwritable_column :
    let step := (TextCursor.start "\"" (Text.unwritable - 1)).perform .literal
    Unclosed [] ∧ step.1 = .error (.abort .integerTooLong) ∧
      ¬ ∃ e, step.1 = .error (.reported e) := by
  have hunclosed : Unclosed [] := Lexeme.literalBody_eq_none_iff.mp rfl
  have hfailed : ((TextCursor.start "\"" (Text.unwritable - 1)).perform .literal).1 =
      .error (.abort .integerTooLong) := by
    have hsource : "\"".toList = [] ++ '\x22' :: [] := rfl
    have hperform := TextCursor.perform_literal_of_unclosed (Text.unwritable - 1) hsource hunclosed
    rw [TextCursor.failure_move_start _ _ (Nat.le_refl _),
      if_neg (Place.not_isWritable_after (by decide) (by decide))] at hperform
    exact hperform
  refine ⟨hunclosed, hfailed, ?_⟩
  rw [hfailed]
  rintro ⟨e, he⟩
  cases he

end ScriptFront
