import ScriptFront.Proofs.Command.Likeness
import ScriptFront.Proofs.Lexeme.Locality

/-!
# Other white space

White space between tokens only keeps them apart. A source that can be tokenized can be given other
white space, as much or as little as one likes around its tokens and at least one blank between any
two of them:

* `Piece.AreProper.respaced`: pieces stay proper if their gaps are replaced so;
* `tokenize_respace`: so the tokens stay what they are, and so do the commands that they make up.
-/

namespace ScriptFront

/-- White space around some lexemes: a gap before each, of which only the first may be empty, and
one after the last. -/
structure Spacing where
  gaps : List (List Char)
  last : List Char
  blank : ∀ gap ∈ last :: gaps, ∀ c ∈ gap, c = ' ' ∨ c = '\t' ∨ c = '\n'
  separates : ∀ gap ∈ gaps.tail, gap ≠ []

/-- The lexemes of the tokens of a source, with other white space around them. -/
def Spacing.respace (s : Spacing) (source : String) (tokens : List Token) : String :=
  String.ofList ((List.zipWith (· ++ ·) s.gaps (tokens.map (·.slice source.toList))).flatten ++
    s.last)

/-! ## Pieces with other gaps -/

namespace Piece

/-- Pieces with their gaps replaced. -/
def respaced (gaps : List (List Char)) (pieces : List Piece) : List Piece :=
  List.zipWith (fun gap p => { p with gap := gap }) gaps pieces

theorem join_respaced (gaps : List (List Char)) (pieces : List Piece) (last : List Char) :
    join (respaced gaps pieces) last =
      (List.zipWith (· ++ ·) gaps (pieces.map (·.spelling))).flatten ++ last := by
  induction pieces generalizing gaps with
  | nil => simp [respaced, join]
  | cons p pieces ih =>
    cases gaps with
    | nil => rfl
    | cons gap gaps =>
      have htail := ih gaps
      rw [respaced] at htail ⊢
      rw [List.zipWith_cons_cons, join, htail, List.map_cons, List.zipWith_cons_cons,
        List.flatten_cons, List.append_assoc, List.append_assoc]

theorem map_spelling_respaced {gaps : List (List Char)} {pieces : List Piece}
    (h : gaps.length = pieces.length) :
    (respaced gaps pieces).map (·.spelling) = pieces.map (·.spelling) := by
  induction pieces generalizing gaps with
  | nil => simp [respaced]
  | cons p pieces ih =>
    cases gaps with
    | nil => cases h
    | cons gap gaps =>
      have htail := ih (Nat.succ.inj h)
      rw [respaced] at htail ⊢
      rw [List.zipWith_cons_cons, List.map_cons, List.map_cons, htail]

/-- What follows a lexeme starts with a blank, if gaps are blank and not empty. -/
theorem isBlank_head_join_respaced {gaps : List (List Char)} {pieces : List Piece}
    {last : List Char} (hblank : ∀ gap ∈ last :: gaps, ∀ c ∈ gap, Text.isBlank c = true)
    (hne : ∀ gap ∈ gaps, gap ≠ []) :
    ∀ c ∈ (join (respaced gaps pieces) last).head?, Text.isBlank c = true := by
  intro c hc
  rw [join_respaced] at hc
  cases gaps with
  | nil => exact hblank last List.mem_cons_self c (List.mem_of_mem_head? hc)
  | cons gap gaps =>
    cases pieces with
    | nil =>
      rw [List.map_nil, List.zipWith_nil_right] at hc
      exact hblank last List.mem_cons_self c (List.mem_of_mem_head? hc)
    | cons p pieces =>
      obtain ⟨d, rest, rfl⟩ := List.exists_cons_of_ne_nil (hne gap List.mem_cons_self)
      cases hc
      exact hblank _ (List.mem_cons_of_mem _ List.mem_cons_self) c List.mem_cons_self

/-- Pieces stay proper if their gaps are replaced by others, of which only the first may be
empty. -/
theorem AreProper.respaced {gaps : List (List Char)} {pieces : List Piece}
    {last otherLast : List Char} (h : AreProper pieces otherLast)
    (hblank : ∀ gap ∈ last :: gaps, ∀ c ∈ gap, Text.isBlank c = true)
    (hne : ∀ gap ∈ gaps.tail, gap ≠ []) : AreProper (respaced gaps pieces) last := by
  induction pieces generalizing gaps with
  | nil =>
    rw [Piece.respaced, List.zipWith_nil_right]
    exact hblank last List.mem_cons_self
  | cons p pieces ih =>
    obtain ⟨-, hspells, -, htail⟩ := h
    cases gaps with
    | nil => exact hblank last List.mem_cons_self
    | cons gap gaps =>
      rw [List.tail_cons] at hne
      have hothers : ∀ other ∈ last :: gaps, ∀ c ∈ other, Text.isBlank c = true := by
        intro other hother
        rcases List.mem_cons.mp hother with rfl | hother
        · exact hblank other List.mem_cons_self
        · exact hblank other (List.mem_cons_of_mem _ (List.mem_cons_of_mem _ hother))
      refine ⟨hblank gap (List.mem_cons_of_mem _ List.mem_cons_self), hspells, ?_, ?_⟩
      · -- whatever the lexeme ended before, now it ends before a blank or the end of the text
        exact Lexeme.endsBefore_of_isBlank p.kind p.spelling
          (isBlank_head_join_respaced hothers hne)
      · exact ih htail hothers fun other hother => hne other (List.mem_of_mem_tail hother)

end Piece

/-- The tokens of a source do not change if other white space is put around them, nor do the
commands that they make up or the error in them, but for the places. -/
theorem tokenize_respace {source : String} {margin : Int} {tokens : List Token}
    (h : tokenize source margin = .ok tokens) (spacing : Spacing)
    (hcount : spacing.gaps.length = tokens.length) (otherMargin : Int) :
    ∃ others, tokenize (spacing.respace source tokens) otherMargin = .ok others ∧
      others.map Token.content = tokens.map Token.content ∧
      ∀ (shown otherShown : Option String) (left otherLeft : Int),
        TreesAlike (buildTree others otherShown otherLeft) (buildTree tokens shown left) := by
  obtain ⟨cut, hlaid⟩ := exists_cut_of_tokenize h
  have hslices := hlaid.map_slice cut.last List.length_nil
  rw [List.nil_append, cut.joined] at hslices
  have hlength : spacing.gaps.length = cut.pieces.length := by
    rw [hcount, ← List.length_map (·.slice source.toList), hslices, List.length_map]
  have hblank : ∀ gap ∈ spacing.last :: spacing.gaps, ∀ c ∈ gap, Text.isBlank c = true := by
    intro gap hgap c hc
    obtain rfl | rfl | rfl := spacing.blank gap hgap c hc <;> rfl
  have htext : Piece.join (Piece.respaced spacing.gaps cut.pieces) spacing.last =
      (spacing.respace source tokens).toList := by
    rw [Spacing.respace, String.toList_ofList, hslices, Piece.join_respaced]
  obtain ⟨others, hothers, hlaid'⟩ := exists_tokenize_of_cut
    ⟨_, spacing.last, htext, cut.proper.respaced hblank spacing.separates⟩ otherMargin
  have hcontents := hlaid'.map_content hlaid (Piece.map_spelling_respaced hlength)
  exact ⟨others, hothers, hcontents, fun shown otherShown left otherLeft =>
    buildTree_alike hcontents otherShown shown otherLeft left⟩

/-- A command in one row without white space, and the same command over several rows. -/
theorem tokenize_respace_rows :
    let tokens : List Token :=
      [⟨.symbol .divide, .text "/", ⟨1, 3, 0, 1⟩⟩, ⟨.word, .text "x", ⟨1, 4, 1, 1⟩⟩,
       ⟨.symbol .lambda, .text "->", ⟨1, 5, 2, 2⟩⟩,
       ⟨.number (.unsigned .long), .int 7, ⟨1, 7, 4, 3⟩⟩,
       ⟨.symbol .terminator, .text ";", ⟨1, 10, 7, 1⟩⟩]
    tokenize "/x->7Ul;" 3 = .ok tokens ∧
      ∃ others, tokenize "/\nx \t->\n\n7Ul ;\t" 0 = .ok others ∧
        others.map Token.content = tokens.map Token.content ∧
        TreesAlike (buildTree others) (buildTree tokens) := by
  intro tokens
  have h : tokenize "/x->7Ul;" 3 = .ok tokens := by decide +kernel
  let spacing : Spacing :=
    { gaps := [[], ['\n'], [' ', '\t'], ['\n', '\n'], [' ']], last := ['\t'],
      blank := by simp, separates := by simp }
  have htext : spacing.respace "/x->7Ul;" tokens = "/\nx \t->\n\n7Ul ;\t" := by decide +kernel
  obtain ⟨others, hothers, hcontents, halike⟩ := tokenize_respace h spacing rfl 0
  rw [htext] at hothers
  exact ⟨h, others, hothers, hcontents, halike none none 0 0⟩

end ScriptFront
