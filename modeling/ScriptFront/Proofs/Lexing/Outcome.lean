import ScriptFront.Proofs.Lexeme.Typing
import ScriptFront.Proofs.Lexing.Extension
import ScriptFront.Proofs.Lexing.Tokens

/-!
# How tokenizing ends

Tokenizing gives tokens whose values fit their kinds, or it meets one error, of one of six kinds,
inside the source or at its end:

* `exists_fault_of_tokenize`: a failure is the error of the place where the source gets stuck;
* `tokenize_outcome`: the two endings, with all that is known of the tokens and of the error.

An error is reported with its row and column, so there is a third ending in between: one that has a
row or a column of too many digits is not reported, and tokenizing breaks off. Only an enormous
margin makes a column so long (`Place.isWritable_after`).
-/

namespace ScriptFront

/-! ## Places that can be written -/

/-- Whether the row and the column of a place can be written. -/
def Place.isWritable (p : Place) : Bool :=
  Text.isWritable p.row && Text.isWritable p.column

/-- A place can be written unless the text before it or the margin is enormous. -/
theorem Place.isWritable_after {margin : Int} {before : List Char}
    (h : 1 + before.length + margin.natAbs < Text.unwritable) :
    (after margin before).isWritable = true := by
  have hrow : before.count '\n' ≤ before.length := List.count_le_length
  have hcolumn : (before.reverse.takeWhile (· ≠ '\n')).length ≤ before.length := by
    have hle := (List.takeWhile_sublist (· ≠ '\n') (l := before.reverse)).length_le
    simpa using hle
  rw [isWritable, Bool.and_eq_true, Text.isWritable_iff, Text.isWritable_iff, after]
  dsimp only
  omega

/-- The places in a source can be written, unless the source or the margin is enormous. -/
theorem Place.isWritable_take {source : String} {margin : Int}
    (hsmall : 1 + source.length + margin.natAbs < Text.unwritable) (offset : Nat) :
    (after margin (source.toList.take offset)).isWritable = true := by
  have hlength : (source.toList.take offset).length ≤ source.length := by
    rw [← String.length_toList]
    exact List.length_take_le' offset source.toList
  exact isWritable_after (by omega)

/-- The error at an offset of a source. -/
theorem TextCursor.error_move_start (source : String) (margin : Int) {n : Nat}
    (hn : n ≤ source.length) (cause : Cause) :
    ((start source margin).move n).error cause =
      { text := cause.message, kind := cause.kind,
        row := (Place.after margin (source.toList.take n)).row,
        column := (Place.after margin (source.toList.take n)).column,
        offset := n, source := source, margin := margin } := by
  have hlength : (source.toList.take n).length = n := by
    rw [List.length_take, String.length_toList]
    omega
  rw [error, source_move, margin_move, place_move_start source margin hn]
  show LexError.mk _ _ _ _ ((source.toList.take n).length : Nat) _ _ = _
  rw [hlength]
  rfl

theorem LexError.failure_eq (e : LexError) :
    e.failure = if Text.isWritable e.row && Text.isWritable e.column then .reported e
      else .abort .integerTooLong :=
  rfl

/-- An error at an offset is reported if the place can be written. -/
theorem TextCursor.failure_move_start (source : String) (margin : Int) {n : Nat}
    (hn : n ≤ source.length) (cause : Cause) :
    (((start source margin).move n).error cause).failure =
      if (Place.after margin (source.toList.take n)).isWritable = true then
        .reported (((start source margin).move n).error cause)
      else .abort .integerTooLong := by
  rw [LexError.failure_eq, error_move_start source margin hn]
  rfl

/-- An error at an offset is reported, unless the source or the margin is enormous. -/
theorem TextCursor.failure_eq_reported {source : String} {margin : Int} {n : Nat}
    (hn : n ≤ source.length) (hsmall : 1 + source.length + margin.natAbs < Text.unwritable)
    (cause : Cause) :
    (((start source margin).move n).error cause).failure =
      .reported (((start source margin).move n).error cause) := by
  rw [failure_move_start source margin hn, if_pos (Place.isWritable_take hsmall n)]

/-! ## Kinds of errors -/

/-- Reading a lexeme fails for one of six kinds of errors. -/
theorem Lexeme.Fails.kind_mem {text : List Char} {width : Nat} {cause : Cause}
    (h : Fails text width cause) :
    cause.kind ∈ [some .unterminatedString, some .doubleDecimalPoint, some .unexpectedEnd,
      some .unknownIntegerType, some .unknownNumberType, some .unexpectedCharacter] := by
  cases h <;> simp [Cause.kind]

/-- Where tokenizing fails, the source gets stuck at an offset, and the error there is the
failure. -/
theorem exists_fault_of_tokenize {source : String} {margin : Int}
    {failure : Failure LexError Breakdown} (h : tokenize source margin = .error failure) :
    ∃ n cause, (outline 0 source.toList).fault? = some (n, cause) ∧ n ≤ source.length ∧
      (∃ text width, Lexeme.Fails text width cause) ∧
      failure = (((TextCursor.start source margin).move n).error cause).failure := by
  obtain ⟨n, cause, hfault, hfailure⟩ := tokenize_eq_error_iff.mp h
  obtain ⟨stop, rest, width, hstuck, -⟩ := StuckAt.exists_of_fault? hfault
  exact ⟨n, cause, hfault, (outline_within_source source).2 n cause hfault,
    ⟨rest, width, Lexeme.fails_of_read hstuck.ne_nil hstuck.failed⟩, hfailure⟩

/-- An error that is reported is the error of the place where the source gets stuck. -/
theorem exists_fault_of_reported {source : String} {margin : Int} {e : LexError}
    (h : tokenize source margin = .error (.reported e)) :
    ∃ n cause, (outline 0 source.toList).fault? = some (n, cause) ∧ n ≤ source.length ∧
      e = ((TextCursor.start source margin).move n).error cause := by
  obtain ⟨n, cause, hfault, hn, -, hfailure⟩ := exists_fault_of_tokenize h
  exact ⟨n, cause, hfault, hn, (LexError.failure_eq_reported_iff.mp hfailure.symm).2⟩

/-- Tokenizing breaks off only at a place that cannot be written. -/
theorem exists_place_of_abort {source : String} {margin : Int} {reason : Breakdown}
    (h : tokenize source margin = .error (.abort reason)) :
    reason = .integerTooLong ∧ ∃ offset ≤ source.length,
      ¬ (Place.after margin (source.toList.take offset)).isWritable = true := by
  obtain ⟨n, cause, -, hn, -, hfailure⟩ := exists_fault_of_tokenize h
  rw [TextCursor.failure_move_start source margin hn] at hfailure
  split at hfailure
  · cases hfailure
  · rename_i hplace
    cases hfailure
    exact ⟨rfl, n, hn, hplace⟩

/-! ## Kinds and values of tokens -/

/-- The kind of a number is found under its sign and the name of its type. -/
theorem Kind.ofNumberType?_typeName (type : NumberKind) :
    ofNumberType? type.isSigned type.typeName = some (.number type) := by
  -- all kinds at once, so that their labels are computed once
  have hall : all.all (fun k => match k with
      | .number n => decide (ofNumberType? n.isSigned n.typeName = some (.number n))
      | _ => true) = true := by decide +kernel
  exact of_decide_eq_true (List.all_eq_true.mp hall _ (mem_all (.number type)))

/-- The tokens of a source are read from the characters at their places. -/
theorem isReadFrom_of_tokenize {source : String} {margin : Int} {tokens : List Token}
    (h : tokenize source margin = .ok tokens) : ∀ t ∈ tokens, t.IsReadFrom source.toList := by
  obtain ⟨cut, hlaid⟩ := exists_cut_of_tokenize h
  have hread := hlaid.isReadFrom List.length_nil cut.proper
  rw [cut.joined, List.nil_append] at hread
  exact hread

/-- A token of a source stands at the place behind the characters before it. -/
theorem place_of_tokenize {source : String} {margin : Int} {tokens : List Token}
    (h : tokenize source margin = .ok tokens) {t : Token} (ht : t ∈ tokens) :
    ∃ offset ≤ source.length, t.position.offset = offset ∧
      t.position.row = (Place.after margin (source.toList.take offset)).row ∧
      t.position.column = (Place.after margin (source.toList.take offset)).column := by
  obtain ⟨-, rfl⟩ := tokenize_eq_ok_iff.mp h
  obtain ⟨entry, hentry, rfl⟩ := List.mem_map.mp ht
  have hoffset := (outline_within_source source).1 entry hentry
  have hlength : (source.toList.take entry.offset).length = entry.offset := by
    rw [List.length_take, String.length_toList]
    omega
  refine ⟨entry.offset, hoffset, ?_⟩
  rw [Outline.Entry.token, TextCursor.token, TextCursor.place_move_start source margin hoffset]
  refine ⟨?_, rfl, rfl⟩
  rw [← hlength]
  simp [Place.after]

/-- A number carries a value of its type. -/
theorem Token.IsReadFrom.carries {t : Token} {source : List Char} (h : t.IsReadFrom source)
    {type : NumberKind} (htype : t.kind = .number type) :
    type.Carries (t.slice source) t.value := by
  obtain ⟨front, spelling, after, rfl, hoffset, hlength, -, -, hread⟩ := h
  rw [slice_eq after hoffset hlength]
  exact Lexeme.carries_of_read hread htype

/-- The value of a token can be written. -/
theorem Token.IsReadFrom.isWritable {t : Token} {source : List Char} (h : t.IsReadFrom source) :
    t.value.isWritable = true := by
  obtain ⟨front, spelling, after, -, -, -, -, -, hread⟩ := h
  exact Lexeme.isWritable_of_read hread

/-- Tokenizing a source gives tokens, of which each number has the kind that its sign and its type
name stand for and carries a value of that type; or it meets an error of one of six kinds, at an
offset of the source. The error is reported, unless its row or its column has too many digits to be
written, and this takes a source or a margin that is enormous. -/
theorem tokenize_outcome (source : String) (margin : Int) :
    (∃ tokens, tokenize source margin = .ok tokens ∧
      ∀ t ∈ tokens, ∀ type, t.kind = .number type →
        Kind.ofNumberType? type.isSigned type.typeName = some t.kind ∧
          type.Carries (t.slice source.toList) t.value) ∨
    ∃ e : LexError,
      tokenize source margin =
        .error (if Text.isWritable e.row && Text.isWritable e.column then .reported e
          else .abort .integerTooLong) ∧
      e.kind ∈ [some .unterminatedString, some .doubleDecimalPoint, some .unexpectedEnd,
        some .unknownIntegerType, some .unknownNumberType, some .unexpectedCharacter] ∧
      (∃ offset ≤ source.length, e.offset = offset ∧
        e.row = (Place.after margin (source.toList.take offset)).row ∧
        e.column = (Place.after margin (source.toList.take offset)).column) ∧
      (1 + source.length + margin.natAbs < Text.unwritable →
        tokenize source margin = .error (.reported e)) := by
  cases h : tokenize source margin with
  | ok tokens =>
    left
    refine ⟨tokens, rfl, ?_⟩
    intro t ht type htype
    rw [htype]
    exact ⟨Kind.ofNumberType?_typeName type, (isReadFrom_of_tokenize h t ht).carries htype⟩
  | error failure =>
    right
    obtain ⟨n, cause, -, hn, ⟨text, width, hfails⟩, hfailure⟩ := exists_fault_of_tokenize h
    have herror := TextCursor.error_move_start source margin hn cause
    rw [hfailure]
    refine ⟨((TextCursor.start source margin).move n).error cause, ?_, hfails.kind_mem,
      ⟨n, hn, ?_⟩, ?_⟩
    · rw [LexError.failure_eq]
    · rw [herror]
      exact ⟨rfl, rfl, rfl⟩
    · intro hsmall
      rw [TextCursor.failure_eq_reported hn hsmall]

/-! ## A column that cannot be written -/

/-- With the largest margin that can be written, the columns in the first row cannot, but for the
first one. -/
theorem Place.not_isWritable_after {before : List Char} (hne : before ≠ [])
    (hrow : '\n' ∉ before) : ¬ (after (Text.unwritable - 1) before).isWritable = true := by
  have hwidth : (before.reverse.takeWhile (· ≠ '\n')).length = before.length := by
    rw [List.takeWhile_eq_self_iff.mpr, List.length_reverse]
    intro c hc
    rw [decide_eq_true_eq]
    rintro rfl
    exact hrow (List.mem_reverse.mp hc)
  have hpos : 0 < before.length := List.length_pos_iff.mpr hne
  rw [isWritable, Bool.and_eq_true, Text.isWritable_iff, Text.isWritable_iff, after]
  rintro ⟨-, hcolumn⟩
  simp only [hwidth] at hcolumn
  omega

/-- An error that is met at a place that cannot be written is not reported. -/
theorem tokenize_of_not_isWritable {source : String} {margin : Int} {n : Nat} {cause : Cause}
    (hfault : (outline 0 source.toList).fault? = some (n, cause))
    (hplace : ¬ (Place.after margin (source.toList.take n)).isWritable = true) :
    tokenize source margin = .error (.abort .integerTooLong) := by
  have hn := (outline_within_source source).2 n cause hfault
  refine tokenize_eq_error_iff.mpr ⟨n, cause, hfault, ?_⟩
  rw [TextCursor.failure_move_start source margin hn, if_neg hplace]

/-- With the largest margin that can be written, the column of an error in the first row cannot. -/
theorem tokenize_wide_margin :
    tokenize "/ 5x" (Text.unwritable - 1) = .error (.abort .integerTooLong) := by
  have hfault : (outline 0 "/ 5x".toList).fault? = some (4, .unknownNumberType 'x') := by
    decide +kernel
  exact tokenize_of_not_isWritable hfault (Place.not_isWritable_after (by decide) (by decide))

/-- So with such a margin a source may have neither tokens nor an error. -/
theorem tokenize_unwritable_column :
    tokenize "/ 5x" (Text.unwritable - 1) = .error (.abort .integerTooLong) ∧
      ¬ ((∃ tokens, tokenize "/ 5x" (Text.unwritable - 1) = .ok tokens) ∨
        ∃ e, tokenize "/ 5x" (Text.unwritable - 1) = .error (.reported e)) := by
  refine ⟨tokenize_wide_margin, ?_⟩
  rw [tokenize_wide_margin]
  rintro (⟨tokens, h⟩ | ⟨e, h⟩)
  · cases h
  · cases h

end ScriptFront
