import ScriptFront.Proofs.Analysis.Margin
import ScriptFront.Proofs.Text.Rows

/-!
# What a shown error shows

An error is shown with a line of its source and with carets below what it points at. The line is
looked up by the row of the error, and this finds the row itself only where rows and lines have the
same numbers:

* `Snippet.rows_text`: the last two rows of a shown text are the line and the carets;
* `Snippet.depicts`: what the line has to do with the row of the error, and what stands above the
  first caret;
* `format_depicts`: both for every error that reading a source meets.

A literal may contain line breaks other than newlines, and then the line that is shown below it
comes from further up (`format_depicts_other_line`).
-/

namespace ScriptFront

/-! ## Texts with a line and carets -/

/-- Whether the last row of a text but one has a line behind the number of a row. -/
def ShowsLine (text : String) (row : Int) (line : List Char) : Prop :=
  ∃ front carets,
    Text.rows text.toList = front ++ [Text.ofInt row ++ [' ', '|', ' '] ++ line, carets]

/-- Whether a text shows a row of a source, but for carriage returns at the end. -/
def ShowsRow (text source : String) (row : Int) : Prop :=
  ∃ line shown, (Text.rows source.toList)[(row - 1).toNat]? = some line ∧
    ShowsLine text row shown ∧ Text.dropEnd '\r' shown = Text.dropEnd '\r' line

/-- Whether a character is directly above the first caret of the last row of a text. -/
def StandsAboveCaret (text : String) (c : Char) : Prop :=
  ∃ front upper carets, Text.rows text.toList = front ++ [upper, carets] ∧
    upper[carets.idxOf '^']? = some c

/-- Whether the first caret marks what is at an offset of a source, unless a line ends there. -/
def MarksOffset (text source : String) (offset : Int) : Prop :=
  ∀ c, source.toList[offset.toNat]? = some c → c ≠ '\n' → c ≠ '\r' → StandsAboveCaret text c

/-- The rows of a source above a given one. -/
def rowsAbove (source : String) (row : Int) : List (List Char) :=
  (Text.rows source.toList).take (row - 1).toNat

/-- How far an offset is behind the start of its row. -/
def distanceInRow (source : String) (row offset : Int) : Nat :=
  offset.toNat - (Text.stacked (rowsAbove source row)).length

/-- What a shown text has to do with the place of an error. -/
structure Depicts (text source : String) (row offset : Int) : Prop where
  /-- If each row above is one line, the first line of the row is shown. This is the row itself if
  nothing but carriage returns comes after its first line break. What the error points at is above
  the first caret if no line break comes before it in the row. -/
  same : (∀ above ∈ rowsAbove source row, Text.IsUnbroken above) →
    ∃ here, (Text.rows source.toList)[(row - 1).toNat]? = some here ∧
      ShowsLine text row (Text.shownPart here) ∧
      (ShowsRow text source row ↔ Text.IsWhole here) ∧
      ∀ c, source.toList[offset.toNat]? = some c → c ≠ '\n' → c ≠ '\r' →
        here[distanceInRow source row offset]? = some c ∧
        (StandsAboveCaret text c ↔
          ∀ b ∈ here.take (distanceInRow source row offset), Text.isLineBreak b = false)
  /-- Otherwise a line from one of the rows above is shown. -/
  other : ¬ (∀ above ∈ rowsAbove source row, Text.IsUnbroken above) →
    ∃ above ∈ rowsAbove source row, ∃ line ∈ Text.lines (above ++ ['\n']),
      ShowsLine text row (Text.shownLine line)

/-- Below rows of one line each, a row that ends with its first line break is shown and marked. -/
theorem Depicts.showsRow {text source : String} {row offset : Int} {here : List Char}
    (h : Depicts text source row offset)
    (hhere : (Text.rows source.toList)[(row - 1).toNat]? = some here) (hwhole : Text.IsWhole here)
    (habove : ∀ above ∈ rowsAbove source row, Text.IsUnbroken above) :
    ShowsRow text source row ∧ MarksOffset text source offset := by
  obtain ⟨other, hother, -, hshows, hmarks⟩ := h.same habove
  obtain rfl := Option.some.inj (hother.symm.trans hhere)
  refine ⟨hshows.mpr hwhole, ?_⟩
  intro c hc hnewline hreturn
  obtain ⟨hget, hcaret⟩ := hmarks c hc hnewline hreturn
  exact hcaret.mpr (hwhole.forall_take hget hreturn)

/-- A text shows one line. -/
theorem ShowsLine.unique {text : String} {row : Int} {line other : List Char}
    (h : ShowsLine text row line) (hother : ShowsLine text row other) : line = other := by
  obtain ⟨front, carets, hrows⟩ := h
  obtain ⟨front', carets', hrows'⟩ := hother
  rw [hrows] at hrows'
  obtain ⟨-, hlast⟩ := List.append_inj' hrows' rfl
  exact List.append_cancel_left (List.cons.inj hlast).1

/-- The last two rows of a text tell what is above the first caret. -/
theorem standsAboveCaret_iff {text : String} {front : List (List Char)} {upper carets : List Char}
    (h : Text.rows text.toList = front ++ [upper, carets]) {c : Char} :
    StandsAboveCaret text c ↔ upper[carets.idxOf '^']? = some c := by
  constructor
  · rintro ⟨front', upper', carets', hrows, hupper⟩
    rw [h] at hrows
    obtain ⟨-, hlast⟩ := List.append_inj' hrows rfl
    obtain ⟨rfl, hcarets⟩ := List.cons.inj hlast
    obtain ⟨rfl, -⟩ := List.cons.inj hcarets
    exact hupper
  · intro hupper
    exact ⟨front, upper, carets, h, hupper⟩

/-! ## The text of a snippet -/

theorem Text.not_mem_ofInt {c : Char} (hc : c.isDigit = false) (hsign : c ≠ '-') (n : Int) :
    c ∉ ofInt n := by
  have hdigits : c ∉ ofNat n.natAbs := by
    intro hmem
    have hdigit : c.isDigit = true :=
      Nat.isDigit_of_mem_toDigits (b := 10) (by omega) (by omega) hmem
    rw [hc] at hdigit
    cases hdigit
  unfold ofInt
  split
  · exact List.not_mem_cons_of_ne_of_not_mem hsign hdigits
  · exact hdigits

namespace Snippet

/-- The row of a snippet that holds the carets. -/
def caretRow (s : Snippet) : List Char :=
  List.replicate ((Text.ofInt s.row).length + 1) ' ' ++ ['|', ' '] ++
    underline s.column s.margin s.width

/-- The row of a snippet that holds the line. -/
def lineRow (s : Snippet) : List Char :=
  Text.ofInt s.row ++ [' ', '|', ' '] ++ line s.source.toList s.row

theorem not_mem_line (source : List Char) (row : Int) : '\n' ∉ line source row := by
  unfold line
  split
  · cases h : (Text.lines source)[(row - 1).toNat]? with
    | none => decide
    | some found => exact Text.not_mem_shownLine (List.mem_of_getElem? h)
  · simp

/-- The last two rows of a snippet are the line and the carets. -/
theorem rows_text (s : Snippet) :
    ∃ front, Text.rows s.text.toList = front ++ [s.lineRow, s.caretRow] := by
  have hline : '\n' ∉ s.lineRow := by
    simp only [lineRow, List.mem_append, not_or]
    exact ⟨⟨Text.not_mem_ofInt rfl (by decide) s.row, by decide⟩, not_mem_line _ _⟩
  have hcaret : '\n' ∉ s.caretRow := by
    simp [caretRow, underline, List.mem_replicate]
  -- what comes before may have newlines of its own, in the message or in the name of the file
  have htext : ∃ front, s.text.toList = front ++ '\n' :: (s.lineRow ++ '\n' :: s.caretRow) := by
    refine ⟨s.head.toList ++ Text.ofInt s.column ++ '\n' :: (s.gutter.toList ++ ['|']), ?_⟩
    rw [text_eq, tail, gutter, lineRow, caretRow]
    simp
  obtain ⟨front, hfront⟩ := htext
  refine ⟨Text.rows front, ?_⟩
  rw [hfront, Text.rows_append_cons, Text.rows_append_newline hline, Text.rows_eq_singleton hcaret]

theorem showsLine_text (s : Snippet) : ShowsLine s.text s.row (line s.source.toList s.row) := by
  obtain ⟨front, hrows⟩ := s.rows_text
  exact ⟨front, s.caretRow, hrows⟩

/-- The first caret is as far behind the gutter as the column is behind the margin. -/
theorem idxOf_caretRow (s : Snippet) :
    s.caretRow.idxOf '^' = (Text.ofInt s.row).length + 3 + (s.column - s.margin).toNat := by
  obtain ⟨width, hwidth⟩ : ∃ width, (max 1 s.width).toNat = width + 1 :=
    ⟨(max 1 s.width).toNat - 1, by omega⟩
  have hfirst : (List.replicate (width + 1) '^').idxOf '^' = 0 := by
    rw [List.replicate_succ, List.idxOf_cons_self]
  rw [caretRow, underline, hwidth, ← List.append_assoc, List.idxOf_append_of_notMem, hfirst]
  · simp only [List.length_append, List.length_replicate, List.length_cons, List.length_nil]
    omega
  · simp [List.mem_replicate]

/-- What is above the first caret. -/
theorem standsAboveCaret_text_iff {s : Snippet} {c : Char} :
    StandsAboveCaret s.text c ↔
      (line s.source.toList s.row)[(s.column - s.margin).toNat]? = some c := by
  have hlength : (Text.ofInt s.row ++ [' ', '|', ' ']).length = (Text.ofInt s.row).length + 3 := by
    rw [List.length_append]
    rfl
  have habove : s.lineRow[s.caretRow.idxOf '^']? =
      (line s.source.toList s.row)[(s.column - s.margin).toNat]? := by
    rw [idxOf_caretRow, lineRow, ← hlength, List.getElem?_append_right (Nat.le_add_right _ _),
      Nat.add_sub_cancel_left]
  obtain ⟨front, hrows⟩ := s.rows_text
  rw [standsAboveCaret_iff hrows, habove]

/-- Whether a snippet is about an offset of its source. -/
structure IsAt (s : Snippet) (offset : Nat) : Prop where
  offset_le : offset ≤ s.source.length
  row_eq : s.row = (Place.after s.margin (s.source.toList.take offset)).row
  column_eq : s.column = (Place.after s.margin (s.source.toList.take offset)).column

/-- Its row and its column count the rows above and the characters to the left. -/
theorem IsAt.exists_view {s : Snippet} {offset : Nat} (h : s.IsAt offset) :
    ∃ v : Text.View s.source.toList offset,
      s.row = 1 + v.above.length ∧ s.column = s.margin + v.left.length := by
  obtain ⟨v⟩ := Text.exists_view (String.length_toList ▸ h.offset_le)
  refine ⟨v, ?_⟩
  rw [h.row_eq, h.column_eq, v.place_eq s.margin]
  exact ⟨rfl, rfl⟩

/-- The line with the number of a row, if each row above is one line. -/
theorem line_of_unbroken {source : List Char} {offset : Nat} (v : Text.View source offset)
    (h : ∀ above ∈ v.above, Text.IsUnbroken above) :
    line source (1 + v.above.length) = Text.shownPart v.row := by
  have hindex : (1 + (v.above.length : Int) - 1).toNat = v.above.length := by omega
  rw [line, if_pos (by omega), hindex, v.getElem?_lines h, ← List.headD_eq_head?_getD,
    Text.shownLine_first v.not_mem_row v.head_below]

/-- The line with the number of a row otherwise. -/
theorem exists_line_of_broken {source : List Char} {offset : Nat} (v : Text.View source offset)
    (h : ¬ ∀ above ∈ v.above, Text.IsUnbroken above) :
    ∃ above ∈ v.above, ∃ found ∈ Text.lines (above ++ ['\n']),
      line source (1 + v.above.length) = Text.shownLine found := by
  have hindex : (1 + (v.above.length : Int) - 1).toNat = v.above.length := by omega
  obtain ⟨above, hmem, found, hfound, hget⟩ := v.exists_line_above h
  refine ⟨above, hmem, found, hfound, ?_⟩
  rw [line, if_pos (by omega), hindex, hget, Option.getD_some]

/-- The text of a snippet depicts the place that the snippet is about. -/
theorem depicts {s : Snippet} {offset : Nat} (h : s.IsAt offset) :
    Depicts s.text s.source s.row offset := by
  obtain ⟨v, hrow, hcolumn⟩ := h.exists_view
  have hdistance : (s.column - s.margin).toNat = v.left.length := by omega
  have hindex : (s.row - 1).toNat = v.above.length := by omega
  have habove : rowsAbove s.source s.row = v.above := by rw [rowsAbove, hindex, v.take_rows]
  have hin : distanceInRow s.source s.row offset = v.left.length := by
    have hoffset := v.offset_eq
    rw [distanceInRow, habove, Int.toNat_natCast]
    omega
  have hshows := s.showsLine_text
  constructor
  · rw [habove]
    intro hone
    have hline : line s.source.toList s.row = Text.shownPart v.row := by
      rw [hrow, line_of_unbroken v hone]
    have hrows : (Text.rows s.source.toList)[(s.row - 1).toNat]? = some v.row := by
      rw [hindex, v.getElem?_rows]
    -- what is shown has no carriage return that could be dropped as well
    have hself := Text.dropEnd_eq_self (Text.not_mem_shownPart v.row)
    rw [hline] at hshows
    refine ⟨v.row, hrows, hshows, ⟨?_, ?_⟩, ?_⟩
    · rintro ⟨row, shown, hrow', hshown, heq⟩
      rw [hrows, Option.some.injEq] at hrow'
      rw [← hrow', hshown.unique hshows, hself] at heq
      exact Text.shownPart_eq_iff.mp heq
    · intro hwhole
      exact ⟨v.row, _, hrows, hshows, by rw [hself, Text.shownPart_eq_iff.mpr hwhole]⟩
    · intro c hc hnewline hreturn
      have hget := v.getElem?_row hc hnewline
      rw [hin, standsAboveCaret_text_iff, hline, hdistance]
      exact ⟨hget, Text.getElem?_shownPart hget hreturn⟩
  · rw [habove]
    intro hmore
    obtain ⟨above, hmem, found, hfound, hline⟩ := exists_line_of_broken v hmore
    rw [← hrow] at hline
    rw [hline] at hshows
    exact ⟨above, hmem, found, hfound, hshows⟩

/-- A snippet that can be shown is shown as its text. -/
theorem eq_text_of_render {s : Snippet} {text : String} (h : s.render = .ok text) :
    text = s.text := by
  -- each check that does not fail leaves what comes after it
  have hrest : ∀ {check : Except Breakdown Unit} {rest : Except Breakdown String},
      (check >>= fun _ => rest) = .ok text → rest = .ok text := by
    intro check rest hbind
    cases check with
    | error reason => cases hbind
    | ok _ => exact hbind
  have hpure := hrest (hrest (hrest (hrest h)))
  exact (Except.ok.inj hpure).symm

/-- A snippet about an offset can be shown if its row and its column can be written and the source
is not enormous. -/
theorem IsAt.render_eq {s : Snippet} {offset : Nat} (h : s.IsAt offset)
    (hwidth : s.width ≤ max 1 s.source.length) (hrow : Text.isWritable s.row = true)
    (hcolumn : Text.isWritable s.column = true) (hsmall : s.source.length < memoryLimit) :
    s.render = .ok s.text := by
  obtain ⟨v, -, hleft⟩ := h.exists_view
  have hone : 1 < memoryLimit := by decide
  have hoffset := h.offset_le
  have hbefore := v.offset_eq
  have hspaces : checkRun (s.column - s.margin) = .ok () := by
    rw [checkRun, if_pos (by omega)]
  have hcarets : checkRun s.width = .ok () := by
    rw [checkRun, if_pos (by omega)]
  rw [render, hspaces, hcarets, Text.checkWritable, Text.checkWritable, if_pos hrow, if_pos hcolumn]
  rfl

end Snippet

/-! ## Errors of a source -/

/-- The snippet of a lexical error is about the offset of the error. -/
theorem exists_isAt_of_tokenize {source : String} {margin : Int} {e : LexError}
    (h : tokenize source margin = .error (.reported e)) (filename : String) :
    ∃ offset : Nat, e.offset = offset ∧ e.source = source ∧ e.isStatable = true ∧
      (e.snippet filename).IsAt offset := by
  obtain ⟨offset, cause, -, hoffset, -, hfailure⟩ := exists_fault_of_tokenize h
  obtain ⟨hstatable, rfl⟩ := LexError.failure_eq_reported_iff.mp hfailure.symm
  refine ⟨offset, ?_, ?_, hstatable, ?_⟩
  all_goals rw [TextCursor.error_move_start source margin hoffset]
  exact ⟨hoffset, rfl, rfl⟩

/-- The snippet of a syntactic error is about the offset of a token. -/
theorem exists_isAt_of_parse {source : String} {margin : Int} {e : ParseError}
    (h : parse source margin = .error (.reported (.parse e))) (filename : String) :
    ∃ (t : Token) (s : Snippet) (offset : Nat), e.token = some t ∧ t.position.offset = offset ∧
      e.snippet? filename = some s ∧ s.IsAt offset ∧ s.source = source ∧ s.margin = margin ∧
      s.row = t.position.row ∧ s.width ≤ max 1 source.length := by
  obtain ⟨tokens, htokens, hbuild⟩ := parse_eq_parse_iff.mp h
  obtain ⟨t, ht, htoken⟩ := exists_token_of_buildTree hbuild
  obtain ⟨hsource, hmargin⟩ := source_of_buildTree hbuild
  obtain ⟨offset, hoffset, hat, hrow, hcolumn⟩ := place_of_tokenize htokens ht
  have hinside := (isReadFrom_of_tokenize htokens t ht).inside
  rw [Position.endOffset, String.length_toList] at hinside
  refine ⟨t, ⟨e.text, filename, source, t.position.row, t.position.column, t.position.length,
    margin⟩, offset, htoken, hat, ?_, ⟨hoffset, hrow, hcolumn⟩, rfl, rfl, rfl, ?_⟩
  · rw [ParseError.snippet?, htoken, hsource, hmargin]
  · show t.position.length ≤ _
    omega

/-- A lexical error can be shown, unless the source is enormous. -/
theorem exists_format_of_tokenize {source : String} {margin : Int} {e : LexError}
    (h : tokenize source margin = .error (.reported e))
    (hsize : source.length < Snippet.memoryLimit) (filename : String) :
    ∃ text, e.format filename = .ok text := by
  obtain ⟨offset, -, rfl, hstatable, hat⟩ := exists_isAt_of_tokenize h filename
  rw [LexError.isStatable, Bool.and_eq_true] at hstatable
  have hwidth : (e.snippet filename).width ≤ (max 1 e.source.length : Nat) := by
    show (1 : Int) ≤ _
    omega
  exact ⟨_, hat.render_eq hwidth hstatable.1 hstatable.2 hsize⟩

/-- A syntactic error can be shown, unless the source or the margin is enormous. -/
theorem exists_format_of_parse {source : String} {margin : Int} {e : ParseError}
    (h : parse source margin = .error (.reported (.parse e)))
    (hsmall : 1 + source.length + margin.natAbs < Text.unwritable)
    (hsize : source.length < Snippet.memoryLimit) (filename : String) :
    ∃ text, e.format filename = .ok text := by
  obtain ⟨t, s, offset, -, -, hsnippet, hat, rfl, rfl, -, hwidth⟩ := exists_isAt_of_parse h filename
  have hplace := Place.isWritable_take hsmall offset
  rw [Place.isWritable, ← hat.row_eq, ← hat.column_eq, Bool.and_eq_true] at hplace
  refine ⟨s.text, ?_⟩
  rw [ParseError.format, hsnippet]
  exact hat.render_eq hwidth hplace.1 hplace.2 hsize

/-- A shown error depicts its place: if every row above is one line, it has the row of its error
above the carets, up to the first line break of this row, and what it points at above the first of
them, if no line break comes before that. Errors are shown unless the source or the margin is
enormous. -/
theorem format_depicts (source : String) (margin : Int) (filename : String) :
    (∀ e, tokenize source margin = .error (.reported e) →
      (source.length < Snippet.memoryLimit → ∃ text, e.format filename = .ok text) ∧
      ∀ text, e.format filename = .ok text → Depicts text source e.row e.offset) ∧
    ∀ e, parse source margin = .error (.reported (.parse e)) → ∃ t, e.token = some t ∧
      (source.length < Snippet.memoryLimit → 1 + source.length + margin.natAbs < Text.unwritable →
        ∃ text, e.format filename = .ok text) ∧
      ∀ text, e.format filename = .ok text →
        Depicts text source t.position.row t.position.offset := by
  constructor
  · intro e he
    refine ⟨fun hsmall => exists_format_of_tokenize he hsmall filename, ?_⟩
    intro text htext
    obtain ⟨offset, hoffset, rfl, -, hat⟩ := exists_isAt_of_tokenize he filename
    rw [Snippet.eq_text_of_render htext, hoffset]
    exact Snippet.depicts hat
  · intro e he
    obtain ⟨t, s, offset, htoken, hoffset, hsnippet, hat, rfl, rfl, hrow, -⟩ :=
      exists_isAt_of_parse he filename
    refine ⟨t, htoken, fun hsmall hwritable => exists_format_of_parse he hwritable hsmall filename,
      ?_⟩
    intro text htext
    rw [ParseError.format, hsnippet] at htext
    rw [Snippet.eq_text_of_render htext, ← hrow, hoffset]
    exact Snippet.depicts hat

/-- Two errors in the second row, with a margin; the first row may end with a carriage return. -/
theorem format_depicts_second_row :
    (∃ e text, tokenize "\"a\r\nb\" $" 2 = .error (.reported e) ∧
      e.format defaultFilename = .ok text ∧
      ShowsRow text "\"a\r\nb\" $" 2 ∧ MarksOffset text "\"a\r\nb\" $" 7) ∧
    ∃ e text, parse "/a;\n b;" 2 = .error (.reported (.parse e)) ∧
      e.format defaultFilename = .ok text ∧
      ShowsRow text "/a;\n b;" 2 ∧ MarksOffset text "/a;\n b;" 5 := by
  constructor
  · let e : LexError := ⟨"unexpected character '$'", some .unexpectedCharacter, 2, 5, 7,
      "\"a\r\nb\" $", 2⟩
    have htokens : tokenize "\"a\r\nb\" $" 2 = .error (.reported e) := by decide +kernel
    have habove : rowsAbove "\"a\r\nb\" $" 2 = [['"', 'a', '\r']] := by decide +kernel
    have hrow : (Text.rows "\"a\r\nb\" $".toList)[1]? = some ['b', '"', ' ', '$'] := by
      decide +kernel
    obtain ⟨hsome, hdepicts⟩ := (format_depicts _ _ defaultFilename).1 e htokens
    obtain ⟨text, htext⟩ := hsome (by decide +kernel)
    refine ⟨e, text, htokens, htext, (hdepicts text htext).showsRow hrow (by decide) ?_⟩
    show ∀ above ∈ rowsAbove _ 2, _
    rw [habove, List.forall_mem_singleton]
    decide
  · let t : Token := ⟨.word, .text "b", ⟨2, 3, 5, 1⟩⟩
    let e : ParseError := ⟨"unexpected token 'b' (generic)", some .unexpectedToken, 3, some t,
      some "/a;\n b;", 2⟩
    have hparse : parse "/a;\n b;" 2 = .error (.reported (.parse e)) := by decide +kernel
    have habove : rowsAbove "/a;\n b;" 2 = [['/', 'a', ';']] := by decide +kernel
    have hrow : (Text.rows "/a;\n b;".toList)[1]? = some [' ', 'b', ';'] := by decide +kernel
    obtain ⟨t', ht', hsome, hdepicts⟩ := (format_depicts _ _ defaultFilename).2 e hparse
    obtain rfl : t = t' := Option.some.inj ht'
    obtain ⟨text, htext⟩ := hsome (by decide +kernel) (by decide +kernel)
    refine ⟨e, text, hparse, htext, (hdepicts text htext).showsRow hrow (by decide) ?_⟩
    show ∀ above ∈ rowsAbove _ 2, _
    rw [habove, List.forall_mem_singleton]
    decide

/-- Behind a literal with a form feed in it, the end of the literal is shown in place of the row of
the error. -/
theorem format_depicts_other_line :
    ∃ e text, tokenize "\"\x0c\"\n$" 0 = .error (.reported e) ∧
      e.format defaultFilename = .ok text ∧
      ¬ ShowsRow text "\"\x0c\"\n$" e.row ∧ ¬ MarksOffset text "\"\x0c\"\n$" e.offset := by
  let text := "error: unexpected character '$'\n  --> input.ss:2:0\n  |\n2 | \"\n  | ^"
  let e : LexError := ⟨"unexpected character '$'", some .unexpectedCharacter, 2, 0, 4,
    "\"\x0c\"\n$", 0⟩
  have htokens : tokenize "\"\x0c\"\n$" 0 = .error (.reported e) := by decide +kernel
  have htext : e.format defaultFilename = .ok text := by decide +kernel
  have hrows : Text.rows text.toList = ["error: unexpected character '$'".toList,
      "  --> input.ss:2:0".toList, "  |".toList] ++ ["2 | \"".toList, "  | ^".toList] := by
    decide +kernel
  refine ⟨e, text, htokens, htext, ?_, ?_⟩
  · rintro ⟨line, shown, hline, hshown, heq⟩
    have hquote : ShowsLine text 2 ['"'] := ⟨_, _, hrows⟩
    obtain rfl := hshown.unique hquote
    have hdollar : (Text.rows "\"\x0c\"\n$".toList)[1]? = some ['$'] := by decide +kernel
    obtain rfl := Option.some.inj (hline.symm.trans hdollar)
    exact absurd heq (by decide)
  · intro hmarks
    have habove := hmarks '$' (by decide +kernel) (by decide) (by decide)
    rw [standsAboveCaret_iff hrows] at habove
    exact absurd habove (by decide +kernel)

end ScriptFront
