import ScriptFront.Proofs.Lexing.Outcome

/-!
# Sources one line below the other

After a source that can be tokenized and a newline, tokenizing starts afresh: what comes next is
tokenized as it would be on its own, only further down.

* `outline_newline`: the outline of the whole is that of the first source, then that of the second;
* `tokenize_newline`: so tokens and errors of the second source are found again, in their columns,
  moved down by the rows and on by the characters before them.

An error whose column cannot be written is not reported on its own, nor is it further down
(`tokenize_newline_wide_margin`).
-/

namespace ScriptFront

/-- A token with some rows and characters put before its source. -/
def Token.moved (rows chars : Nat) (t : Token) : Token :=
  { t with position := { t.position with
      row := t.position.row + rows, offset := t.position.offset + chars } }

/-- An error with some rows and characters put before its source. -/
def LexError.moved (source : String) (rows chars : Nat) (e : LexError) : LexError :=
  { e with row := e.row + rows, offset := e.offset + chars, source := source }

/-! ## Places below a newline -/

theorem toList_newline (first second : String) :
    (first ++ "\n" ++ second).toList = first.toList ++ '\n' :: second.toList := by
  simp

/-- Below a newline, columns start at the margin again. -/
theorem Place.after_newline (margin : Int) (before line : List Char) :
    after margin (before ++ '\n' :: line) =
      ⟨(after margin line).offset + (before.length + 1),
        (after margin line).row + (1 + before.count '\n'), (after margin line).column⟩ := by
  -- the column counts back to the last newline, so it does not get past this one
  have hcolumn : ((before ++ '\n' :: line).reverse.takeWhile (· ≠ '\n')).length =
      (line.reverse.takeWhile (· ≠ '\n')).length := by
    rw [List.reverse_append, List.reverse_cons, List.append_assoc, List.takeWhile_append]
    split
    · rename_i hall
      rw [List.singleton_append, List.takeWhile_cons_of_neg (by simp), List.append_nil, hall]
    · rfl
  rw [after, after, hcolumn, List.length_append, List.length_cons, List.count_append,
    List.count_cons_self, Place.mk.injEq]
  dsimp only
  refine ⟨?_, ?_, rfl⟩
  · omega
  · omega

namespace TextCursor

/-- The place of an offset in the second of two sources. -/
theorem place_move_newline (first : String) {second : String} {n : Nat}
    (hn : n ≤ second.length) (margin : Int) :
    ((start (first ++ "\n" ++ second) margin).move (first.length + 1 + n)).place =
      ⟨((start second margin).move n).place.offset + (first.length + 1),
        ((start second margin).move n).place.row + (1 + first.toList.count '\n'),
        ((start second margin).move n).place.column⟩ := by
  have hle : first.length + 1 + n ≤ (first ++ "\n" ++ second).length := by
    have hlength := congrArg List.length (toList_newline first second)
    rw [String.length_toList, List.length_append, List.length_cons, String.length_toList,
      String.length_toList] at hlength
    omega
  have htake : (first.toList ++ '\n' :: second.toList).take (first.length + 1 + n) =
      first.toList ++ '\n' :: second.toList.take n := by
    rw [Nat.add_assoc, ← String.length_toList, List.take_length_add_append, Nat.add_comm 1 n,
      List.take_succ_cons]
  rw [place_move_start _ margin hle, place_move_start _ margin hn, toList_newline, htake,
    Place.after_newline, String.length_toList]

end TextCursor

/-! ## Two sources -/

/-- A text without failure and a newline are followed by the outline of what comes next. -/
theorem outline_newline {first : List Char} (h : (outline 0 first).fault? = none)
    (second : List Char) :
    outline 0 (first ++ '\n' :: second) =
      ((outline 0 second).shift (first.length + 1)).prepend (outline 0 first).entries := by
  have hreads := readsTo_of_fault?_eq_none h
  -- the last lexeme of the first text may end before the newline
  have hblank : ∀ c ∈ ('\n' :: second).head?, Text.isBlank c = true := by
    intro c hc
    cases hc
    rfl
  have hjoined := (hreads.append (.inr hblank)).outline_eq
  rw [List.nil_append, outline_blank _ rfl, Nat.zero_add] at hjoined
  rw [hjoined, ← outline_add, Nat.add_zero]

/-- An entry of the first source keeps its token. -/
theorem Outline.Entry.token_append {source : String} {e : Outline.Entry}
    (he : e.offset ≤ source.length) (more : String) (margin : Int) :
    e.token (.start (source ++ more) margin) = e.token (.start source margin) := by
  rw [token, token, TextCursor.token, TextCursor.token, TextCursor.place_move_append he]

/-- An entry of the second source has its token moved. -/
theorem Outline.Entry.token_newline (first : String) {second : String} {e : Outline.Entry}
    (he : e.offset ≤ second.length) (margin : Int) :
    token (.start (first ++ "\n" ++ second) margin)
        { e with offset := first.length + 1 + e.offset } =
      (e.token (.start second margin)).moved (1 + first.toList.count '\n') (first.length + 1) := by
  rw [token, token, TextCursor.token, TextCursor.token, TextCursor.place_move_newline first he]
  rfl

/-- An error in the second source is moved. -/
theorem TextCursor.error_newline (first : String) {second : String} {n : Nat}
    (hn : n ≤ second.length) (margin : Int) (cause : Cause) :
    ((start (first ++ "\n" ++ second) margin).move (first.length + 1 + n)).error cause =
      (((start second margin).move n).error cause).moved (first ++ "\n" ++ second)
        (1 + first.toList.count '\n') (first.length + 1) := by
  rw [error, error, place_move_newline first hn, source_move, margin_move, margin_move]
  rfl

/-- The tokens of both sources follow each other. -/
theorem tokenize_newline_of_ok {first second : String} {margin : Int} {tokens others : List Token}
    (hfirst : tokenize first margin = .ok tokens) (hsecond : tokenize second margin = .ok others) :
    tokenize (first ++ "\n" ++ second) margin = .ok (tokens ++
      others.map (Token.moved (1 + first.toList.count '\n') (first.length + 1))) := by
  obtain ⟨hnone, rfl⟩ := tokenize_eq_ok_iff.mp hfirst
  obtain ⟨hnone', rfl⟩ := tokenize_eq_ok_iff.mp hsecond
  refine tokenize_eq_ok_iff.mpr ?_
  rw [toList_newline, outline_newline hnone, Outline.fault?_prepend, Outline.entries_prepend,
    Outline.shift, String.length_toList, List.map_append, List.map_map, List.map_map]
  refine ⟨by rw [hnone']; rfl, congrArg₂ _ ?_ ?_⟩
  · refine List.map_congr_left fun e he => ?_
    rw [String.append_assoc,
      Outline.Entry.token_append ((outline_within_source first).1 e he)]
  · refine List.map_congr_left fun e he => ?_
    exact (Outline.Entry.token_newline first ((outline_within_source second).1 e he) margin).symm

/-- A fault in the second source is one in both. -/
theorem tokenize_newline_of_fault {first second : String} {margin : Int} {tokens : List Token}
    (hfirst : tokenize first margin = .ok tokens) {n : Nat} {cause : Cause}
    (hfault : (outline 0 second.toList).fault? = some (n, cause)) :
    tokenize (first ++ "\n" ++ second) margin =
      .error ((((TextCursor.start second margin).move n).error cause).moved
        (first ++ "\n" ++ second) (1 + first.toList.count '\n') (first.length + 1)).failure := by
  obtain ⟨hnone, -⟩ := tokenize_eq_ok_iff.mp hfirst
  have hn := (outline_within_source second).2 n cause hfault
  refine tokenize_eq_error_iff.mpr ⟨first.length + 1 + n, cause, ?_, ?_⟩
  · rw [toList_newline, outline_newline hnone, Outline.fault?_prepend, Outline.shift, hfault,
      String.length_toList]
    rfl
  · rw [TextCursor.error_newline first hn]

/-! ## Errors below a newline -/

namespace LexError

/-- Whether an error further down can be stated. -/
theorem isStatable_moved {e : LexError} {row : Nat} (hrow : e.row = row) (source : String)
    (rows chars : Nat) :
    (e.moved source rows chars).isStatable = true ↔
      row + rows < Text.unwritable ∧ Text.isWritable e.column = true := by
  rw [isStatable, moved, hrow, ← Int.natCast_add, Text.isWritable, Int.natAbs_natCast,
    Bool.and_eq_true, decide_eq_true_eq]

/-- An error that cannot be stated cannot be stated further down either. -/
theorem failure_moved_of_abort {e : LexError} {row : Nat} (hrow : e.row = row)
    {reason : Breakdown} (h : e.failure = .abort reason) (source : String) (rows chars : Nat) :
    (e.moved source rows chars).failure = .abort reason := by
  unfold failure at h ⊢
  split at h
  · cases h
  · rename_i hstatable
    rw [if_neg]
    · exact h
    · intro hmoved
      obtain ⟨hrows, hcolumn⟩ := (isStatable_moved hrow source rows chars).mp hmoved
      -- with no rows before it, the error is what it was
      have hstay := (isStatable_moved hrow e.source 0 0).mpr ⟨by omega, hcolumn⟩
      rw [isStatable, moved, Int.natCast_zero, Int.add_zero] at hstay
      exact hstatable hstay

/-- An error that can be stated can be stated further down, where the rows can be written. -/
theorem failure_moved_of_isStatable {e : LexError} {row rows : Nat} (hrow : e.row = row)
    (h : e.isStatable = true) (hrows : row + rows < Text.unwritable) (source : String)
    (chars : Nat) :
    (e.moved source rows chars).failure = .reported (e.moved source rows chars) := by
  rw [isStatable, Bool.and_eq_true] at h
  exact failure_eq_reported_iff.mpr ⟨(isStatable_moved hrow source rows chars).mpr ⟨hrows, h.2⟩,
    rfl⟩

end LexError

/-- The row of an offset is one of the rows of its source. -/
theorem TextCursor.row_move_le {source : String} {n : Nat} (hn : n ≤ source.length)
    (margin : Int) :
    ((start source margin).move n).place.row ≤ 1 + source.toList.count '\n' := by
  rw [place_move_start source margin hn, Place.after]
  have hcount := (List.take_sublist n source.toList).count_le '\n'
  dsimp only
  omega

/-- A source that breaks off does so further down as well. -/
theorem tokenize_newline_of_abort {first second : String} {margin : Int} {tokens : List Token}
    (hfirst : tokenize first margin = .ok tokens) {reason : Breakdown}
    (hsecond : tokenize second margin = .error (.abort reason)) :
    tokenize (first ++ "\n" ++ second) margin = .error (.abort reason) := by
  obtain ⟨n, cause, hfault, hfailure⟩ := tokenize_eq_error_iff.mp hsecond
  rw [tokenize_newline_of_fault hfirst hfault, LexError.failure_moved_of_abort rfl hfailure.symm]

/-- After a source that is tokenized and a newline, another source is tokenized as it is on its
own: its tokens come next, or its error is met, in the same columns, as many rows and characters
further on as stand before. The error is reported as long as the number of rows is one that can be
written. -/
theorem tokenize_newline {first : String} {margin : Int} {tokens : List Token}
    (h : tokenize first margin = .ok tokens) (second : String) :
    let joined := first ++ "\n" ++ second
    let rows := 1 + first.toList.count '\n'
    let chars := first.length + 1
    ((∃ all, tokenize joined margin = .ok all) ↔
        ∃ others, tokenize second margin = .ok others) ∧
      (∀ others, tokenize second margin = .ok others →
        tokenize joined margin = .ok (tokens ++ others.map (Token.moved rows chars))) ∧
      (∀ e, tokenize second margin = .error (.reported e) →
        tokenize joined margin = .error (e.moved joined rows chars).failure ∧
          (1 + joined.toList.count '\n' < Text.unwritable →
            tokenize joined margin = .error (.reported (e.moved joined rows chars)))) ∧
      ∀ reason, tokenize second margin = .error (.abort reason) →
        tokenize joined margin = .error (.abort reason) := by
  intro joined rows chars
  refine ⟨⟨?_, ?_⟩, ?_, ?_, ?_⟩
  · rintro ⟨all, hall⟩
    cases hsecond : tokenize second margin with
    | ok others => exact ⟨others, rfl⟩
    | error failure =>
      obtain ⟨n, cause, hfault, -⟩ := tokenize_eq_error_iff.mp hsecond
      rw [tokenize_newline_of_fault h hfault] at hall
      cases hall
  · rintro ⟨others, hothers⟩
    exact ⟨_, tokenize_newline_of_ok h hothers⟩
  · intro others hothers
    exact tokenize_newline_of_ok h hothers
  · intro e he
    obtain ⟨n, cause, hfault, hfailure⟩ := tokenize_eq_error_iff.mp he
    obtain ⟨hstatable, rfl⟩ := LexError.failure_eq_reported_iff.mp hfailure.symm
    have hjoined := tokenize_newline_of_fault h hfault
    refine ⟨hjoined, fun hrows => ?_⟩
    -- the rows of both sources make up those of the whole
    have hrow := TextCursor.row_move_le ((outline_within_source second).2 n cause hfault) margin
    rw [toList_newline, List.count_append, List.count_cons_self] at hrows
    rw [hjoined, LexError.failure_moved_of_isStatable rfl hstatable (by omega)]
  · intro reason hreason
    exact tokenize_newline_of_abort h hreason

/-- A source of two rows, and below it tokens, or an error in the second of two more rows. -/
theorem tokenize_newline_third_row :
    let tokens : List Token :=
      [⟨.word, .text "a", ⟨1, 3, 0, 1⟩⟩, ⟨.symbol .terminator, .text ";", ⟨2, 3, 2, 1⟩⟩]
    tokenize "a\n;" 3 = .ok tokens ∧
      tokenize ("a\n;" ++ "\n" ++ " b=") 3 = .ok (tokens ++
        [⟨.word, .text "b", ⟨3, 4, 5, 1⟩⟩, ⟨.symbol .assignment, .text "=", ⟨3, 5, 6, 1⟩⟩]) ∧
      tokenize ("a\n;" ++ "\n" ++ "b\n $") 3 = .error (.reported ⟨"unexpected character '$'",
        some .unexpectedCharacter, 4, 4, 7, "a\n;" ++ "\n" ++ "b\n $", 3⟩) := by
  intro tokens
  have hfirst : tokenize "a\n;" 3 = .ok tokens := by decide +kernel
  have htokens : tokenize " b=" 3 = .ok [⟨.word, .text "b", ⟨1, 4, 1, 1⟩⟩,
      ⟨.symbol .assignment, .text "=", ⟨1, 5, 2, 1⟩⟩] := by decide +kernel
  have herror : tokenize "b\n $" 3 = .error (.reported ⟨"unexpected character '$'",
      some .unexpectedCharacter, 2, 4, 3, "b\n $", 3⟩) := by decide +kernel
  have hrows : "a\n;".toList.count '\n' = 1 := by decide
  have hlength : "a\n;".length = 3 := by decide
  have hok := (tokenize_newline hfirst " b=").2.1 _ htokens
  have hfailed := ((tokenize_newline hfirst "b\n $").2.2.1 _ herror).2 (by decide +kernel)
  rw [hrows, hlength] at hok hfailed
  exact ⟨hfirst, hok, hfailed⟩

/-- With the largest margin that can be written, a source has an error that is not reported. Below
an empty row no error is reported either. -/
theorem tokenize_newline_wide_margin :
    tokenize "" (Text.unwritable - 1) = .ok [] ∧
      (¬ ∃ others, tokenize "/ 5x" (Text.unwritable - 1) = .ok others) ∧
      ¬ ∃ e, tokenize ("" ++ "\n" ++ "/ 5x") (Text.unwritable - 1) = .error (.reported e) := by
  have hentries : (outline 0 "".toList).entries = [] := by decide +kernel
  have hempty : tokenize "" (Text.unwritable - 1) = .ok [] :=
    tokenize_eq_ok_iff.mpr ⟨by decide +kernel, by rw [hentries]; rfl⟩
  refine ⟨hempty, ?_, ?_⟩
  · rw [tokenize_wide_margin]
    rintro ⟨others, hothers⟩
    cases hothers
  · rw [tokenize_newline_of_abort hempty tokenize_wide_margin]
    rintro ⟨e, he⟩
    cases he

end ScriptFront
