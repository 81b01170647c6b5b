import ScriptFront.Proofs.Lexeme.Reading

/-!
# Cuts of a text

A cut divides a text into blank gaps and lexemes, each of which has the shape of its kind and ends
where such a lexeme may. The main statements compare this with what `lex` computes:

* `lex_follows`: a text that has a cut is lexed along it;
* `exists_cut`: a text that is lexed to its end has a cut.
-/

namespace ScriptFront

/-- A gap and the lexeme after it, given by its kind and its characters. -/
structure Piece where
  gap : List Char
  kind : Kind
  spelling : List Char
  deriving DecidableEq

namespace Piece

/-- The text that pieces and a last gap make up. -/
def join : List Piece → List Char → List Char
  | [], last => last
  | p :: others, last => p.gap ++ (p.spelling ++ join others last)

/-- Whether all gaps are blank, and all lexemes have the shape of their kind and end where one
may. -/
def AreProper : List Piece → List Char → Prop
  | [], last => ∀ c ∈ last, Text.isBlank c = true
  | p :: others, last => (∀ c ∈ p.gap, Text.isBlank c = true) ∧ p.kind.Spells p.spelling ∧
      p.kind.EndsBefore p.spelling (join others last) ∧ AreProper others last

/-- The kinds, offsets and lengths of the lexemes, if the first gap starts at a given offset. -/
def spans (start : Nat) : List Piece → List (Kind × Int × Int)
  | [] => []
  | p :: others =>
    (p.kind, ↑(start + p.gap.length), ↑p.spelling.length) ::
      spans (start + p.gap.length + p.spelling.length) others

/-- Pieces of one text are determined by their spans. -/
theorem eq_of_spans {start : Nat} {pieces others : List Piece} {last otherLast : List Char}
    (hspans : spans start pieces = spans start others)
    (hjoin : join pieces last = join others otherLast) : pieces = others ∧ last = otherLast := by
  induction pieces generalizing start others with
  | nil =>
    cases others with
    | nil => exact ⟨rfl, hjoin⟩
    | cons q others => cases hspans
  | cons p pieces ih =>
    cases others with
    | nil => cases hspans
    | cons q others =>
      simp only [spans, List.cons.injEq, Prod.mk.injEq, Int.natCast_inj] at hspans
      obtain ⟨⟨hkind, hoffset, hlength⟩, htail⟩ := hspans
      have hgap : p.gap.length = q.gap.length := by omega
      obtain ⟨hgap', hrest⟩ := List.append_inj hjoin hgap
      obtain ⟨hspelling, hrest'⟩ := List.append_inj hrest hlength
      rw [← hgap, ← hlength] at htail
      obtain ⟨rfl, rfl⟩ := ih htail hrest'
      refine ⟨?_, rfl⟩
      obtain ⟨gap, kind, spelling⟩ := p
      obtain ⟨gap', kind', spelling'⟩ := q
      simp only at hgap' hkind hspelling
      rw [hgap', hkind, hspelling]

end Piece

/-- A division of a text into blank gaps and lexemes. -/
structure Cut (text : List Char) where
  pieces : List Piece
  /-- The gap after the last lexeme. -/
  last : List Char
  joined : Piece.join pieces last = text
  proper : Piece.AreProper pieces last

namespace Lexing

/-- Whether the end of the text was reached. -/
def isComplete : Lexing → Bool
  | finished _ => true
  | stuck _ _ _ => false
  | lexeme _ _ _ tail => tail.isComplete

/-- Whether a lexing has the widths of some pieces and a last gap, and the lexemes that the pieces
spell on their own. -/
inductive Follows : Lexing → List Piece → List Char → Prop where
  | finished (last : List Char) : Follows (.finished last.length) [] last
  | lexeme {p : Piece} {value : Value} {tail : Lexing} {others : List Piece} {last : List Char}
      (hread : Lexeme.read p.spelling = .took p.spelling.length ⟨p.kind, value⟩)
      (htail : Follows tail others last) :
      Follows (.lexeme p.gap.length p.spelling.length ⟨p.kind, value⟩ tail) (p :: others) last

end Lexing

/-! ## Steps of lexing -/

/-- No lexeme starts with a blank. -/
theorem Kind.Spells.not_isBlank_head {k : Kind} {spelling : List Char} (h : k.Spells spelling)
    (after : List Char) : ∀ c ∈ (spelling ++ after).head?, Text.isBlank c = false := by
  intro c hc
  rw [Bool.eq_false_iff]
  intro hblank
  obtain ⟨value, hread⟩ := Lexeme.exists_read h
  obtain ⟨d, rest, rfl⟩ := List.exists_cons_of_ne_nil h.ne_nil
  cases hc
  have hbare := hread [] (k.endsBefore_nil _)
  rw [List.append_nil, Lexeme.read_eq_failed_of_isSpace (Text.isSpace_of_isBlank hblank)] at hbare
  cases hbare

/-- Blanks alone are a gap. -/
theorem lex_blanks {gap : List Char} (h : ∀ c ∈ gap, Text.isBlank c = true) :
    lex gap = .finished gap.length := by
  rw [lex_eq, List.dropWhile_eq_nil_iff.mpr h, List.takeWhile_eq_self_iff.mpr h]

/-- A gap ends where a lexeme is read. -/
theorem lex_append_of_read {gap text : List Char} {width : Nat} {lexeme : Lexeme}
    (hgap : ∀ c ∈ gap, Text.isBlank c = true) (htext : ∀ c ∈ text.head?, Text.isBlank c = false)
    (hread : Lexeme.read text = .took width lexeme) :
    lex (gap ++ text) = .lexeme gap.length width lexeme (lex (text.drop width)) := by
  rw [lex_eq, Text.dropWhile_run hgap htext, Text.takeWhile_run hgap htext]
  cases text with
  | nil => cases hread
  | cons c rest => simp only [hread]

/-- Lexing gets stuck where nothing can be read. -/
theorem lex_append_of_failed {gap text : List Char} {width : Nat} {cause : Cause}
    (hgap : ∀ c ∈ gap, Text.isBlank c = true) (htext : ∀ c ∈ text.head?, Text.isBlank c = false)
    (hne : text ≠ []) (hread : Lexeme.read text = .failed width cause) :
    lex (gap ++ text) = .stuck gap.length width cause := by
  rw [lex_eq, Text.dropWhile_run hgap htext, Text.takeWhile_run hgap htext]
  cases text with
  | nil => exact absurd rfl hne
  | cons c rest => simp only [hread]

/-- White space at the start of a text that is lexed to its end is blank. -/
theorem isBlank_of_isComplete_lex {text : List Char} (h : (lex text).isComplete = true) :
    ∀ c ∈ text.head?, Text.isSpace c = true → Text.isBlank c = true := by
  intro c hc hspace
  by_contra hblank
  rw [Bool.not_eq_true] at hblank
  obtain ⟨rest, rfl⟩ := List.head?_eq_some_iff.mp hc
  have hstuck : lex ([] ++ c :: rest) = .stuck 0 0 (.unexpectedCharacter c) :=
    lex_append_of_failed (by simp) (fun d hd => by cases hd; exact hblank)
      (List.cons_ne_nil _ _) (Lexeme.read_eq_failed_of_isSpace hspace)
  rw [List.nil_append] at hstuck
  rw [hstuck] at h
  cases h

/-! ## Lexing along a cut -/

/-- A text that is made up of proper pieces is lexed along them. -/
theorem lex_follows {pieces : List Piece} {last : List Char}
    (h : Piece.AreProper pieces last) : (lex (Piece.join pieces last)).Follows pieces last := by
  induction pieces with
  | nil =>
    rw [Piece.join, lex_blanks h]
    exact .finished last
  | cons p others ih =>
    obtain ⟨hgap, hspells, hends, hothers⟩ := h
    obtain ⟨value, hread⟩ := Lexeme.exists_read hspells
    have hbare := hread [] (p.kind.endsBefore_nil _)
    rw [List.append_nil] at hbare
    rw [Piece.join, lex_append_of_read hgap (hspells.not_isBlank_head _) (hread _ hends),
      List.drop_left]
    exact .lexeme hbare (ih hothers)

/-- A text that is lexed to its end has a cut. -/
theorem exists_cut {text : List Char} (h : (lex text).isComplete = true) : Nonempty (Cut text) := by
  -- the induction is on the length, since the rest after a lexeme is no direct part of the text
  induction hn : text.length using Nat.strong_induction_on generalizing text with
  | _ n ih =>
    have hgap : ∀ c ∈ text.takeWhile Text.isBlank, Text.isBlank c = true :=
      fun c hc => List.mem_takeWhile_imp hc
    have htext := List.takeWhile_append_dropWhile (p := Text.isBlank) (l := text)
    cases hrest : text.dropWhile Text.isBlank with
    | nil => exact ⟨⟨[], text, rfl, List.dropWhile_eq_nil_iff.mp hrest⟩⟩
    | cons c rest =>
      have hhead := Text.head?_dropWhile_run Text.isBlank text
      rw [hrest] at htext hhead
      cases hread : Lexeme.read (c :: rest) with
      | failed width cause =>
        rw [← htext, lex_append_of_failed hgap hhead (List.cons_ne_nil _ _) hread] at h
        cases h
      | took width lexeme =>
        rw [← htext, lex_append_of_read hgap hhead hread] at h
        obtain ⟨spelling, after, hsplit, rfl, hspells, hends⟩ := Lexeme.spells_of_read hread
        rw [hsplit, List.drop_left] at h
        have hshort : after.length < n := by
          have hpos := List.length_pos_iff.mpr hspells.ne_nil
          rw [← hn, ← htext, hsplit, List.length_append, List.length_append]
          omega
        obtain ⟨cut⟩ := ih after.length hshort h rfl
        have hafter : Piece.join cut.pieces cut.last = after := cut.joined
        refine ⟨⟨⟨text.takeWhile Text.isBlank, lexeme.kind, spelling⟩ :: cut.pieces, cut.last,
          ?_, hgap, hspells, ?_, cut.proper⟩⟩
        · rw [Piece.join, hafter, ← hsplit, htext]
        · rw [hafter]
          exact hends (isBlank_of_isComplete_lex h)

end ScriptFront
