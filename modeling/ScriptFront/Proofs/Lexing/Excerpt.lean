import ScriptFront.Proofs.Lexing.Tokens

/-!
# Excerpts of a source

What stands from the start of a token to the end of the same or a later one can be tokenized alone:

* `Piece.AreProper.excerpt`: pieces in the middle of proper pieces are proper, also without the gaps
  around them;
* `tokenize_excerpt`: so the excerpt has the tokens of the range, with offsets counted from its
  start.
-/

namespace ScriptFront

/-- The characters of a source from an offset to another. -/
def Text.excerpt (source : String) (start stop : Int) : String :=
  String.ofList (source.toList.extract start.toNat stop.toNat)

/-- The excerpt between two offsets is what stands there. -/
theorem Text.toList_excerpt {source : String} {before part after : List Char}
    (h : source.toList = before ++ (part ++ after)) {start stop : Int}
    (hstart : start = before.length) (hstop : stop = ↑(before.length + part.length)) :
    (excerpt source start stop).toList = part := by
  rw [excerpt, String.toList_ofList, h, hstart, hstop, Int.toNat_natCast, Int.toNat_natCast,
    List.extract_eq_take_drop, List.drop_left, Nat.add_sub_cancel_left, List.take_left]

/-! ## Pieces in the middle -/

/-- A lexeme that may end before a text may end before any front of it. -/
theorem Kind.EndsBefore.of_append {k : Kind} {text after more : List Char}
    (h : k.EndsBefore text (after ++ more)) : k.EndsBefore text after := by
  cases after with
  | nil => exact k.endsBefore_nil text
  | cons c after => cases k <;> exact h

namespace Piece

theorem join_append (pieces others : List Piece) (last : List Char) :
    join (pieces ++ others) last = join pieces [] ++ join others last := by
  induction pieces with
  | nil => rfl
  | cons p pieces ih =>
    rw [List.cons_append, join, join, ih, List.append_assoc, List.append_assoc]

/-- The gap before pieces can be set apart from them. -/
theorem join_cons_eq (p : Piece) (pieces : List Piece) (last : List Char) :
    join (p :: pieces) last = p.gap ++ join ({ p with gap := [] } :: pieces) last := rfl

/-- Pieces after proper pieces are proper. -/
theorem AreProper.of_append_right {pieces others : List Piece} {last : List Char}
    (h : AreProper (pieces ++ others) last) : AreProper others last := by
  induction pieces with
  | nil => exact h
  | cons p pieces ih => exact ih h.2.2.2

/-- Pieces before other pieces are proper without them. -/
theorem AreProper.of_append_left {pieces others : List Piece} {last : List Char}
    (h : AreProper (pieces ++ others) last) : AreProper pieces [] := by
  induction pieces with
  | nil =>
    intro c hc
    cases hc
  | cons p pieces ih =>
    rw [List.cons_append] at h
    obtain ⟨hgap, hspells, hends, htail⟩ := h
    rw [join_append] at hends
    exact ⟨hgap, hspells, hends.of_append, ih htail⟩

/-- Pieces in the middle of proper pieces are proper, without the gaps around them. -/
theorem AreProper.excerpt {before others after : List Piece} {p : Piece} {last : List Char}
    (h : AreProper (before ++ (p :: others ++ after)) last) :
    AreProper ({ p with gap := [] } :: others) [] := by
  obtain ⟨-, hspells, hends, htail⟩ := h.of_append_right.of_append_left
  exact ⟨by simp, hspells, hends, htail⟩

/-- The spans of pieces that start further on. -/
theorem spans_add (chars start : Nat) (pieces : List Piece) :
    spans (chars + start) pieces =
      (spans start pieces).map fun s => (s.1, s.2.1 + (chars : Int), s.2.2) := by
  induction pieces generalizing start with
  | nil => rfl
  | cons p pieces ih =>
    have hgap : chars + start + p.gap.length = chars + (start + p.gap.length) :=
      Nat.add_assoc _ _ _
    have htail : chars + (start + p.gap.length) + p.spelling.length =
        chars + (start + p.gap.length + p.spelling.length) := Nat.add_assoc _ _ _
    rw [spans, spans, List.map_cons, hgap, htail, ih, Nat.add_comm chars (start + p.gap.length),
      Int.natCast_add]

end Piece

/-! ## Tokens in the middle -/

namespace Laid

/-- Pieces split where their tokens do. -/
theorem exists_append {start : Nat} {pieces : List Piece} {tokens others : List Token}
    (h : Laid start pieces (tokens ++ others)) :
    ∃ front back, pieces = front ++ back ∧ Laid start front tokens ∧
      Laid (start + (Piece.join front []).length) back others := by
  induction tokens generalizing start pieces with
  | nil => exact ⟨[], pieces, rfl, .nil start, h⟩
  | cons t tokens ih =>
    cases h with
    | @cons _ p _ pieces _ hkind hread hoffset hlength htail =>
      obtain ⟨front, back, rfl, hfront, hback⟩ := ih htail
      refine ⟨p :: front, back, rfl, .cons hkind hread hoffset hlength hfront, ?_⟩
      rw [Piece.join, List.length_append, List.length_append, ← Nat.add_assoc, ← Nat.add_assoc]
      exact hback

/-- The last token ends with the last lexeme. -/
theorem endOffset_eq {start : Nat} {pieces : List Piece} {tokens : List Token}
    (h : Laid start pieces tokens) {t : Token} (ht : tokens.getLast? = some t) :
    t.position.endOffset = ↑(start + (Piece.join pieces []).length) := by
  obtain ⟨tokens, rfl⟩ := List.getLast?_eq_some_iff.mp ht
  obtain ⟨front, back, rfl, -, hback⟩ := h.exists_append
  cases hback with
  | @cons _ p _ _ _ _ _ hoffset hlength htail =>
    cases htail
    rw [Position.endOffset, hoffset, hlength, Piece.join_append, List.length_append, Piece.join,
      Piece.join, List.append_nil, List.length_append]
    omega

/-- The first token without the gap before it. -/
theorem without_gap {start : Nat} {p : Piece} {pieces : List Piece} {tokens : List Token}
    (h : Laid start (p :: pieces) tokens) :
    Laid (start + p.gap.length) ({ p with gap := [] } :: pieces) tokens := by
  cases h with
  | cons hkind hread hoffset hlength htail => exact .cons hkind hread hoffset hlength htail

end Laid

/-- Tokens in the middle of a source are those of the excerpt from the first to the last of them. -/
theorem exists_tokenize_excerpt {source : String} {margin : Int} {before part after : List Token}
    (h : tokenize source margin = .ok (before ++ (part ++ after))) {first last : Token}
    (hfirst : part.head? = some first) (hlast : part.getLast? = some last) (otherMargin : Int) :
    ∃ range, tokenize (Text.excerpt source first.position.offset last.position.endOffset)
        otherMargin = .ok range ∧
      range.map Token.content = part.map Token.content ∧
      range.map (·.position.offset) =
        part.map (·.position.offset - first.position.offset) := by
  -- the cut of the source splits into the pieces before, in and after the part
  obtain ⟨cut, hlaid⟩ := exists_cut_of_tokenize h
  obtain ⟨front, rest, hpieces, hfront, hrest⟩ := hlaid.exists_append
  obtain ⟨middle, back, rfl, hmiddle, -⟩ := hrest.exists_append
  have hstop := hmiddle.endOffset_eq hlast
  obtain ⟨others, rfl⟩ := List.head?_eq_some_iff.mp hfirst
  cases middle with
  | nil => cases hmiddle
  | cons p middle =>
    have hstart : first.position.offset = ↑((Piece.join front []).length + p.gap.length) := by
      cases hmiddle with
      | cons _ _ hoffset => rw [hoffset, Nat.zero_add]
    have hsource := cut.joined.symm
    rw [hpieces, Piece.join_append, Piece.join_append, Piece.join_cons_eq, List.append_assoc,
      ← List.append_assoc] at hsource
    have htext : (Text.excerpt source first.position.offset last.position.endOffset).toList =
        Piece.join ({ p with gap := [] } :: middle) [] := by
      refine Text.toList_excerpt hsource ?_ ?_
      · rw [hstart, List.length_append]
      · rw [hstop, Piece.join_cons_eq, List.length_append, List.length_append, Nat.zero_add,
          Nat.add_assoc]
    have hproper := cut.proper
    rw [hpieces] at hproper
    obtain ⟨range, hrange, hlaid'⟩ :=
      exists_tokenize_of_cut ⟨_, [], htext.symm, hproper.excerpt⟩ otherMargin
    have htrim := hmiddle.without_gap
    refine ⟨range, hrange, hlaid'.map_content htrim rfl, ?_⟩
    -- the spans in the source are those in the excerpt, moved by the offset of the first token
    have hspans := htrim.map_span
    rw [Nat.zero_add, ← Nat.add_zero (_ + p.gap.length), Piece.spans_add, ← hlaid'.map_span,
      ← hstart] at hspans
    have hoffsets := congrArg (List.map fun s => s.2.1 - first.position.offset) hspans
    rw [List.map_map, List.map_map, List.map_map] at hoffsets
    refine Eq.trans (List.map_congr_left fun t _ => ?_) hoffsets.symm
    exact (Int.add_sub_cancel t.position.offset first.position.offset).symm

/-- The excerpt of a source from a token to the end of the same or a later one is tokenized, for
every margin. It has the tokens of the range, with offsets counted from the start of the excerpt. -/
theorem tokenize_excerpt {source : String} {margin : Int} {tokens : List Token}
    (h : tokenize source margin = .ok tokens) {i j : Nat} (hij : i ≤ j) {first last : Token}
    (hfirst : tokens[i]? = some first) (hlast : tokens[j]? = some last) (otherMargin : Int) :
    let part := (tokens.drop i).take (j - i + 1)
    ∃ range, tokenize (Text.excerpt source first.position.offset last.position.endOffset)
        otherMargin = .ok range ∧
      range.length = j - i + 1 ∧ range.map Token.content = part.map Token.content ∧
      range.map (·.position.offset) =
        part.map (·.position.offset - first.position.offset) := by
  intro part
  obtain ⟨hj, -⟩ := List.getElem?_eq_some_iff.mp hlast
  have hsplit : tokens = tokens.take i ++ (part ++ (tokens.drop i).drop (j - i + 1)) := by
    rw [List.take_append_drop, List.take_append_drop]
  have hlength : part.length = j - i + 1 := by
    rw [List.length_take, List.length_drop]
    omega
  have hhead : part.head? = some first := by
    rw [List.head?_take, if_neg (Nat.succ_ne_zero _), List.head?_drop, hfirst]
  have hend : part.getLast? = some last := by
    rw [List.getLast?_eq_getElem?, hlength, Nat.add_sub_cancel, List.getElem?_take_of_lt (by omega),
      List.getElem?_drop, Nat.add_sub_cancel' hij, hlast]
  rw [hsplit] at h
  obtain ⟨range, hrange, hcontent, hoffsets⟩ := exists_tokenize_excerpt h hhead hend otherMargin
  refine ⟨range, hrange, ?_, hcontent, hoffsets⟩
  rw [← hlength, ← List.length_map Token.content, hcontent, List.length_map]

/-- A word, a symbol right after it, and a number in the next row, out of a longer source. -/
theorem tokenize_excerpt_rows :
    let tokens : List Token :=
      [⟨.symbol .not, .text "!", ⟨1, 3, 0, 1⟩⟩, ⟨.word, .text "x", ⟨1, 5, 2, 1⟩⟩,
       ⟨.symbol .lambda, .text "->", ⟨1, 6, 3, 2⟩⟩,
       ⟨.number (.unsigned .long), .int 7, ⟨2, 4, 7, 3⟩⟩,
       ⟨.symbol .terminator, .text ";", ⟨2, 7, 10, 1⟩⟩]
    tokenize "! x->\n 7Ul;" 3 = .ok tokens ∧
      ∃ range, tokenize "x->\n 7Ul" 0 = .ok range ∧ range.length = 3 ∧
        range.map Token.content = [(.word, .text "x", 1), (.symbol .lambda, .text "->", 2),
          (.number (.unsigned .long), .int 7, 3)] ∧
        range.map (·.position.offset) = [0, 1, 5] := by
  intro tokens
  have h : tokenize "! x->\n 7Ul;" 3 = .ok tokens := by decide +kernel
  have hexcerpt : Text.excerpt "! x->\n 7Ul;" 2 10 = "x->\n 7Ul" := by decide +kernel
  have hrange := tokenize_excerpt h (show 1 ≤ 3 by decide) rfl rfl 0
  refine ⟨h, ?_⟩
  rw [← hexcerpt]
  exact hrange

end ScriptFront
