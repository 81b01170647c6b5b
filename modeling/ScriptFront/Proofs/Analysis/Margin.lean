import ScriptFront.Proofs.Analysis.Agreement
import ScriptFront.Proofs.Command.Relocation

/-!
# Analyses with different margins

The margin is the column of the first character of a line. It is added wherever a line starts, kept
by the errors, and taken off again where an error is shown. So it moves columns and nothing else:

* `tokenize_margin_of_ok`, `tokenize_margin_of_fault`: tokens and errors are found again, shifted;
* `Snippet.render_shifted`: a shifted error is shown with its carets where they were;
* `analyze_margin`: what is known about a script with one margin is what is known with another,
  shifted.

Only whether a place can be written depends on how long its column is.
-/

namespace ScriptFront

/-! ## Shifting columns -/

/-- A token in another column. -/
def Token.shifted (margin : Int) (t : Token) : Token :=
  { t with position := { t.position with column := t.position.column + margin } }

/-- A lexical error in another column. -/
def LexError.shifted (margin : Int) (e : LexError) : LexError :=
  { e with column := e.column + margin, margin := e.margin + margin }

/-- A syntactic error that points at a token in another column. -/
def ParseError.shifted (margin : Int) (e : ParseError) : ParseError :=
  { e with token := e.token.map (Token.shifted margin), margin := e.margin + margin }

namespace Analysis

/-- The record of a script in which all columns are shifted. -/
def shifted (margin : Int) (a : Analysis) : Analysis :=
  { a with
    tokens := a.tokens.map (·.map (Token.shifted margin))
    commands := a.commands.map (·.map (Command.map (Token.shifted margin)))
    lexError := a.lexError.map (LexError.shifted margin)
    parseError := a.parseError.map (ParseError.shifted margin) }

/-- A record is given if the place of its lexical error can be written. -/
def stated (a : Analysis) : Except Breakdown Analysis :=
  match a.lexError with
  | some e => if e.isStatable then .ok a else .error .integerTooLong
  | none => .ok a

end Analysis

theorem Token.keepsLexeme_shifted (margin : Int) : KeepsLexeme (Token.shifted margin) :=
  ⟨fun _ => rfl, fun _ => rfl⟩

/-! ## Tokens and lexical errors -/

/-- The margin is added to the column of a place. -/
theorem Place.after_margin (margin : Int) (before : List Char) :
    after margin before =
      { after 0 before with column := (after 0 before).column + margin } := by
  simp only [after, Place.mk.injEq, true_and]
  omega

section

variable {source : String}

theorem TextCursor.place_move_margin {n : Nat} (hn : n ≤ source.length) (margin : Int) :
    ((start source margin).move n).place =
      { ((start source 0).move n).place with
        column := ((start source 0).move n).place.column + margin } := by
  rw [place_move_start source margin hn, place_move_start source 0 hn, Place.after_margin]

/-- An entry of an outline is a token in a shifted column. -/
theorem Outline.Entry.token_margin {e : Outline.Entry} (he : e.offset ≤ source.length)
    (margin : Int) :
    e.token (.start source margin) = (e.token (.start source 0)).shifted margin := by
  rw [token, token, TextCursor.token, TextCursor.token, TextCursor.place_move_margin he]
  rfl

/-- An error at an offset is met in a shifted column. -/
theorem TextCursor.error_margin {n : Nat} (hn : n ≤ source.length) (margin : Int) (cause : Cause) :
    ((start source margin).move n).error cause =
      (((start source 0).move n).error cause).shifted margin := by
  rw [error, error, place_move_margin hn, source_move, source_move, margin_move, margin_move,
    LexError.shifted]
  simp [start]

/-- The tokens with a margin are the tokens without, shifted. -/
theorem tokenize_margin_of_ok {tokens : List Token} (h : tokenize source 0 = .ok tokens)
    (margin : Int) : tokenize source margin = .ok (tokens.map (Token.shifted margin)) := by
  obtain ⟨hnone, rfl⟩ := tokenize_eq_ok_iff.mp h
  refine tokenize_eq_ok_iff.mpr ⟨hnone, ?_⟩
  rw [List.map_map]
  refine List.map_congr_left fun e he => ?_
  exact (Outline.Entry.token_margin ((outline_within_source source).1 e he) margin).symm

/-- A fault is met with any margin. -/
theorem tokenize_margin_of_fault {n : Nat} {cause : Cause}
    (h : (outline 0 source.toList).fault? = some (n, cause)) (margin : Int) :
    tokenize source margin =
      .error ((((TextCursor.start source 0).move n).error cause).shifted margin).failure := by
  have hn := (outline_within_source source).2 n cause h
  refine tokenize_eq_error_iff.mpr ⟨n, cause, h, ?_⟩
  rw [TextCursor.error_margin hn margin]

end

/-! ## Trees -/

/-- The tree of shifted tokens is the shifted tree. -/
theorem buildTree_margin (tokens : List Token) (source : Option String) (margin : Int) :
    buildTree (tokens.map (Token.shifted margin)) source margin =
      match buildTree tokens source 0 with
      | .ok commands => .ok (commands.map (Command.map (Token.shifted margin)))
      | .error (.reported e) => .error (.reported (e.shifted margin))
      | .error (.abort reason) => .error (.abort reason) := by
  have htree := buildTree_append_map (Token.keepsLexeme_shifted margin) .nil tokens source source 0
    margin
  rw [List.nil_append] at htree
  rw [htree]
  -- with no tokens before them, only the source and the margin of an error are left to compare
  cases hbuild : buildTree tokens source 0 with
  | ok commands => rfl
  | error failure =>
    cases failure with
    | abort reason => rfl
    | reported e =>
      obtain ⟨hsource, hmargin⟩ := source_of_buildTree hbuild
      have hshifted : e.relocated (Token.shifted margin) ([] : List Token).length source margin =
          e.shifted margin := by
        rw [ParseError.relocated, ParseError.shifted, hmargin, ← hsource]
        simp
      simp only [hshifted]

/-! ## Shown errors -/

namespace Snippet

/-- A snippet with all columns shifted. -/
def shifted (margin : Int) (s : Snippet) : Snippet :=
  { s with column := s.column + margin, margin := s.margin + margin }

/-- The spaces that are as wide as the row number and one more. -/
def gutter (s : Snippet) : String :=
  String.ofList (List.replicate ((Text.ofInt s.row).length + 1) ' ')

/-- What is shown before the column. -/
def head (s : Snippet) : String :=
  "error: " ++ s.message ++ "\n" ++
  s.gutter ++ "--> " ++ s.filename ++ ":" ++ String.ofList (Text.ofInt s.row) ++ ":"

/-- What is shown after the column; the carets stand in the last line. -/
def tail (s : Snippet) : String :=
  "\n" ++
  s.gutter ++ "|\n" ++
  String.ofList (Text.ofInt s.row) ++ " | " ++ String.ofList (line s.source.toList s.row) ++ "\n" ++
  s.gutter ++ "| " ++ String.ofList (underline s.column s.margin s.width)

/-- The text of a snippet in which any number stands for the column. -/
def renderAs (s : Snippet) (column : Int) : Except Breakdown String := do
  checkRun (s.column - s.margin)
  checkRun s.width
  Text.checkWritable s.row
  Text.checkWritable column
  return s.head ++ String.ofList (Text.ofInt column) ++ s.tail

theorem text_eq (s : Snippet) :
    s.text = s.head ++ String.ofList (Text.ofInt s.column) ++ s.tail := by
  unfold text head tail gutter
  dsimp only
  simp only [String.append_assoc]

theorem render_eq (s : Snippet) : s.render = s.renderAs s.column := by
  rw [render, renderAs, text_eq]

/-- A snippet is not shown over a column that cannot be written. -/
theorem renderAs_of_not_isWritable {s : Snippet} {column : Int}
    (hrun : checkRun (s.column - s.margin) = .ok ()) (hwidth : checkRun s.width = .ok ())
    (hrow : Text.checkWritable s.row = .ok ()) (hcolumn : ¬ Text.isWritable column = true) :
    s.renderAs column = .error .integerTooLong := by
  rw [renderAs, hrun, hwidth, hrow, Text.checkWritable, if_neg hcolumn]
  rfl

/-- A shifted snippet is shown as it was, but for the number of the column. -/
theorem render_shifted (margin : Int) (s : Snippet) :
    (s.shifted margin).render = s.renderAs (s.column + margin) := by
  -- where the carets stand depends on the distance from the margin
  have hdistance : s.column + margin - (s.margin + margin) = s.column - s.margin := by omega
  have htail : (s.shifted margin).tail = s.tail := by
    simp only [tail, shifted, gutter, underline, hdistance]
  rw [render_eq, renderAs, renderAs, htail]
  simp only [shifted, hdistance]
  rfl

end Snippet

theorem LexError.format_shifted (margin : Int) (e : LexError) (filename : String) :
    (e.shifted margin).format filename =
      (e.snippet filename).renderAs (e.column + margin) :=
  Snippet.render_shifted margin (e.snippet filename)

theorem ParseError.snippet?_shifted (margin : Int) (e : ParseError) (filename : String) :
    (e.shifted margin).snippet? filename = (e.snippet? filename).map (Snippet.shifted margin) := by
  unfold snippet? shifted
  cases e.token with
  | none => rfl
  | some t => cases e.source <;> rfl

theorem ParseError.format_shifted (margin : Int) {e : ParseError} {filename : String} {s : Snippet}
    (h : e.snippet? filename = some s) :
    (e.shifted margin).format filename = s.renderAs (s.column + margin) := by
  rw [format, snippet?_shifted, h]
  exact Snippet.render_shifted margin s

/-! ## Analyses -/

/-- An analysis that meets a lexical error records it, if its place can be written. -/
theorem analyze_of_failure {source : String} {margin : Int} {e : LexError}
    (h : tokenize source margin = .error e.failure) :
    analyze source margin = (⟨source, none, none, some e, none⟩ : Analysis).stated := by
  rw [analyze_eq, h, LexError.failure, Analysis.stated]
  dsimp only
  by_cases hstatable : e.isStatable = true
  · rw [if_pos hstatable, if_pos hstatable]
  · rw [if_neg hstatable, if_neg hstatable]

/-- A lexical error that is reported can be stated. -/
theorem Analysis.stated_eq_ok {source : String} {e : LexError} (h : e.failure = .reported e) :
    (⟨source, none, none, some e, none⟩ : Analysis).stated =
      .ok ⟨source, none, none, some e, none⟩ := by
  obtain ⟨hstatable, -⟩ := LexError.failure_eq_reported_iff.mp h
  rw [stated]
  dsimp only
  rw [if_pos hstatable]

theorem Analysis.stated_of_lexError {a : Analysis} (h : a.lexError = none) : a.stated = .ok a := by
  rw [stated, h]

/-- A fault is recorded with any margin, in the shifted column. -/
theorem analyze_margin_of_fault {source : String} {n : Nat} {cause : Cause}
    (h : (outline 0 source.toList).fault? = some (n, cause)) (margin : Int) :
    let e := ((TextCursor.start source 0).move n).error cause
    let a : Analysis := ⟨source, none, none, some e, none⟩
    analyze source 0 = a.stated ∧ analyze source margin = (a.shifted margin).stated ∧
      (1 + source.length + margin.natAbs < Text.unwritable →
        analyze source 0 = .ok a ∧ analyze source margin = .ok (a.shifted margin)) := by
  intro e a
  have hzero : analyze source 0 = a.stated :=
    analyze_of_failure (tokenize_eq_error_iff.mpr ⟨n, cause, h, rfl⟩)
  have hmargin : analyze source margin = (a.shifted margin).stated :=
    analyze_of_failure (tokenize_margin_of_fault h margin)
  refine ⟨hzero, hmargin, ?_⟩
  intro hsmall
  have hn := (outline_within_source source).2 n cause h
  rw [hzero, hmargin]
  -- both errors stand at an offset of the source, so both can be stated
  refine ⟨Analysis.stated_eq_ok (TextCursor.failure_eq_reported hn (by omega) cause),
    Analysis.stated_eq_ok ?_⟩
  rw [← TextCursor.error_margin hn]
  exact TextCursor.failure_eq_reported hn hsmall cause

/-- Tokens are recorded with any margin, and commands or an error at one of the tokens as well. -/
theorem analyze_margin_of_ok {source : String} {tokens : List Token}
    (h : tokenize source 0 = .ok tokens) (margin : Int) :
    ∃ a : Analysis, analyze source 0 = .ok a ∧ analyze source margin = .ok (a.shifted margin) ∧
      a.lexError = none ∧
      ∀ e, a.parseError = some e → e.source = some source ∧ ∃ t, e.token = some t := by
  have hshifted := buildTree_margin tokens (some source) margin
  rw [analyze_eq, analyze_eq, h, tokenize_margin_of_ok h margin]
  dsimp only
  obtain ⟨commands, htree⟩ | ⟨e, t, htree, htoken⟩ :=
    buildTree_of_isWritable (isWritable_of_tokenize h) (some source) 0
  · rw [htree] at hshifted
    rw [htree, hshifted]
    exact ⟨_, rfl, rfl, rfl, by simp⟩
  · rw [htree] at hshifted
    rw [htree, hshifted]
    refine ⟨_, rfl, rfl, rfl, ?_⟩
    intro e' he'
    cases he'
    exact ⟨(source_of_buildTree htree).1, t, htoken⟩

/-- The margin only shifts columns: with any margin the analysis of a script ends at the same stage
and records the same tokens, commands and errors, in columns that are larger by the margin. Its
error is shown in the same words and over the same carets; only the number of the column differs.
Where that number is too long to be written, the error is not shown, and a lexical one not even
recorded. -/
theorem analyze_margin (source : String) (margin : Int) :
    ∃ a : Analysis,
      analyze source 0 = a.stated ∧ analyze source margin = (a.shifted margin).stated ∧
      (1 + source.length + margin.natAbs < Text.unwritable →
        analyze source 0 = .ok a ∧ analyze source margin = .ok (a.shifted margin)) ∧
      (∀ e, a.lexError = some e → ∀ filename,
        e.format filename = (e.snippet filename).renderAs e.column ∧
        (e.shifted margin).format filename =
          (e.snippet filename).renderAs (e.column + margin)) ∧
      ∀ e, a.parseError = some e → ∀ filename, ∃ s, e.snippet? filename = some s ∧
        e.format filename = s.renderAs s.column ∧
        (e.shifted margin).format filename = s.renderAs (s.column + margin) := by
  -- the outline does not know the margin, so it settles the first stage for both analyses
  cases hfault : (outline 0 source.toList).fault? with
  | some fault =>
    obtain ⟨n, cause⟩ := fault
    obtain ⟨hzero, hmargin, hsmall⟩ := analyze_margin_of_fault hfault margin
    refine ⟨_, hzero, hmargin, hsmall, ?_, by simp⟩
    intro e _ filename
    exact ⟨Snippet.render_eq (e.snippet filename), e.format_shifted margin filename⟩
  | none =>
    obtain ⟨a, hzero, hmargin, hlex, hparse⟩ :=
      analyze_margin_of_ok (tokenize_eq_ok_iff.mpr ⟨hfault, rfl⟩) margin
    have hshifted : (a.shifted margin).lexError = none := by rw [Analysis.shifted, hlex]; rfl
    refine ⟨a, ?_, ?_, fun _ => ⟨hzero, hmargin⟩, by simp [hlex], ?_⟩
    · rw [hzero, Analysis.stated_of_lexError hlex]
    · rw [hmargin, Analysis.stated_of_lexError hshifted]
    · intro e he filename
      obtain ⟨hsource, t, htoken⟩ := hparse e he
      obtain ⟨s, hs⟩ : ∃ s, e.snippet? filename = some s := by
        rw [ParseError.snippet?, hsource, htoken]
        exact ⟨_, rfl⟩
      refine ⟨s, hs, ?_, ParseError.format_shifted margin hs⟩
      rw [ParseError.format, hs]
      exact Snippet.render_eq s

/-- With the widest margin that can be written, a lexical error is lost that is recorded without a
margin, and a syntactic error is recorded that can be shown only without it. -/
theorem analyze_margin_unwritable :
    (analyze "/ 5x" 0 = .ok ⟨"/ 5x", none, none, some ⟨"unknown number type 'x'",
        some .unknownNumberType, 1, 4, 4, "/ 5x", 0⟩, none⟩ ∧
      analyze "/ 5x" (Text.unwritable - 1) = .error .integerTooLong) ∧
    ∃ a e text, analyze " a" 0 = .ok a ∧ a.parseError = some e ∧
      e.format defaultFilename = .ok text ∧
      analyze " a" (Text.unwritable - 1) = .ok (a.shifted (Text.unwritable - 1)) ∧
      (e.shifted (Text.unwritable - 1)).format defaultFilename = .error .integerTooLong := by
  refine ⟨⟨by decide +kernel, ?_⟩, ?_⟩
  · rw [analyze_eq, tokenize_wide_margin]
  · let t : Token := ⟨.word, .text "a", ⟨1, 1, 1, 1⟩⟩
    let e : ParseError :=
      ⟨"unexpected token 'a' (generic)", some .unexpectedToken, 0, some t, some " a", 0⟩
    have htokens : tokenize " a" 0 = .ok [t] := by decide +kernel
    have hrecord : analyze " a" 0 = .ok ⟨" a", some [t], none, none, some e⟩ := by decide +kernel
    have htext : e.format defaultFilename = .ok
        "error: unexpected token 'a' (generic)\n  --> input.ss:1:1\n  |\n1 |  a\n  |  ^" := by
      decide +kernel
    obtain ⟨a, hzero, hmargin, -⟩ := analyze_margin_of_ok htokens (Text.unwritable - 1)
    obtain rfl : a = ⟨" a", some [t], none, none, some e⟩ := by
      rw [hzero] at hrecord
      exact Except.ok.inj hrecord
    refine ⟨_, e, _, hzero, rfl, htext, hmargin, ?_⟩
    -- the token stands one column behind the margin, in the first column that is too long
    have hsnippet : e.snippet? defaultFilename =
        some ⟨e.text, defaultFilename, " a", 1, 1, 1, 0⟩ := rfl
    have hcolumn : ¬ Text.isWritable (1 + (Text.unwritable - 1)) = true := by
      rw [Text.isWritable_iff]
      omega
    rw [ParseError.format_shifted _ hsnippet]
    exact Snippet.renderAs_of_not_isWritable (by decide +kernel) (by decide +kernel)
      (by decide +kernel) hcolumn

end ScriptFront
