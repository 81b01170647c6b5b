import ScriptFront.Proofs.Cursor.Place
import ScriptFront.Proofs.Lexing.Cut

/-!
# Tokens of a source

Tokenizing and cutting are the same: the tokens of a source are those of its cut (`Laid`). From this
follow the two main statements:

* `tokenize_spans`: the tokens stand in order and apart, only blanks stand between them, and each
  spans a lexeme of its kind at its place;
* `tokenize_cut`: a source that has a cut is tokenized along it, and it has no other cut.
-/

namespace ScriptFront

/-! ## Tokens of a cut -/

/-- Whether tokens are the lexemes of some pieces, if the first gap starts at a given offset. -/
inductive Laid : Nat → List Piece → List Token → Prop where
  | nil (start : Nat) : Laid start [] []
  | cons {start : Nat} {p : Piece} {t : Token} {others : List Piece} {tokens : List Token}
      (hkind : t.kind = p.kind)
      (hread : Lexeme.read p.spelling = .took p.spelling.length ⟨t.kind, t.value⟩)
      (hoffset : t.position.offset = ↑(start + p.gap.length))
      (hlength : t.position.length = p.spelling.length)
      (htail : Laid (start + p.gap.length + p.spelling.length) others tokens) :
      Laid start (p :: others) (t :: tokens)

namespace TextCursor

/-- Moving along a lexing gives the tokens of its pieces. -/
theorem follow_laid {lexing : Lexing} {pieces : List Piece} {last : List Char}
    (h : lexing.Follows pieces last) {k : TextCursor} (hk : k.rest = Piece.join pieces last) :
    ∃ tokens, (k.follow lexing).1 = .ok tokens ∧ Laid k.place.offset pieces tokens := by
  induction h generalizing k with
  | finished last => exact ⟨[], rfl, .nil _⟩
  | @lexeme p value tail others last hread _ ih =>
    have hgap : (k.move p.gap.length).rest = p.spelling ++ Piece.join others last := by
      rw [rest_move, hk, Piece.join, List.drop_left]
    have hrest : ((k.move p.gap.length).move p.spelling.length).rest = Piece.join others last := by
      rw [rest_move, hgap, List.drop_left]
    have hoffset : (k.move p.gap.length).place.offset = k.place.offset + p.gap.length := by
      rw [offset_move, hk, Piece.join, List.length_append]
      omega
    have hoffset' : ((k.move p.gap.length).move p.spelling.length).place.offset =
        k.place.offset + p.gap.length + p.spelling.length := by
      rw [offset_move, hgap, hoffset, List.length_append]
      omega
    obtain ⟨tokens, hok, hlaid⟩ := ih hrest
    rw [hoffset'] at hlaid
    refine ⟨(k.move p.gap.length).token p.spelling.length ⟨p.kind, value⟩ :: tokens, ?_,
      .cons rfl hread ?_ rfl hlaid⟩
    · simp only [follow, hok]
      rfl
    · show ((k.move p.gap.length).place.offset : Int) = _
      rw [hoffset]

/-- Tokens are given only for a text that is lexed to its end. -/
theorem isComplete_of_follow {lexing : Lexing} {k : TextCursor} {tokens : List Token}
    (h : (k.follow lexing).1 = .ok tokens) : lexing.isComplete = true := by
  induction lexing generalizing k tokens with
  | finished gap => rfl
  | stuck gap width cause => cases h
  | lexeme gap width lexeme tail ih =>
    simp only [follow] at h
    cases htail : (((k.move gap).move width).follow tail).1 with
    | error failure => rw [htail] at h; cases h
    | ok others => exact ih htail

end TextCursor

/-- A source that has a cut is tokenized along it. -/
theorem exists_tokenize_of_cut {source : String} (cut : Cut source.toList) (margin : Int) :
    ∃ tokens, tokenize source margin = .ok tokens ∧ Laid 0 cut.pieces tokens := by
  have hfollows := lex_follows cut.proper
  rw [cut.joined] at hfollows
  exact TextCursor.follow_laid (k := .start source margin) hfollows cut.joined.symm

/-- The tokens of a source are those of a cut. -/
theorem exists_cut_of_tokenize {source : String} {margin : Int} {tokens : List Token}
    (h : tokenize source margin = .ok tokens) :
    ∃ cut : Cut source.toList, Laid 0 cut.pieces tokens := by
  obtain ⟨cut⟩ := exists_cut (TextCursor.isComplete_of_follow h)
  obtain ⟨others, hothers, hlaid⟩ := exists_tokenize_of_cut cut margin
  rw [h] at hothers
  cases hothers
  exact ⟨cut, hlaid⟩

/-! ## Spans of tokens -/

namespace Token

/-- The characters of a source that a token spans. -/
def slice (t : Token) (source : List Char) : List Char :=
  (source.drop t.position.offset.toNat).take t.position.length.toNat

/-- The characters of a source after a token. -/
def following (t : Token) (source : List Char) : List Char :=
  source.drop t.position.endOffset.toNat

/-- Whether a token spans the character at an offset. -/
def Covers (t : Token) (offset : Nat) : Prop :=
  t.position.offset ≤ offset ∧ offset < t.position.endOffset

/-- Whether a token spans a lexeme of its kind at its place in a source:

* a word is a run of letters, which is its value, and no letter follows it;
* a symbol is the longest at its place, and its spelling is its value;
* a literal is a body between quotes;
* a number is a plain numeral with a suffix that gives it its type, and if there is no suffix, the
  end of the source, a blank, or a one-character symbol other than the point follows it. -/
def IsLexemeOf (t : Token) (source : List Char) : Prop :=
  match t.kind with
  | .word => t.slice source ≠ [] ∧ (∀ c ∈ t.slice source, c.isAlpha = true) ∧
      t.value = .text (String.ofList (t.slice source)) ∧
      ∀ c ∈ (t.following source).head?, c.isAlpha = false
  | .symbol s => t.slice source = s.spelling ∧ t.value = .text (String.ofList s.spelling) ∧
      ∀ u : Symbol, u.spelling <+: source.drop t.position.offset.toNat →
        u.spelling.length ≤ s.spelling.length
  | .literal => ∃ body, LiteralBody body ∧ t.slice source = '\x22' :: (body ++ ['\x22'])
  | .number type => ∃ (n : Numeral) (suffix : List Char), n.IsPlain ∧
      NumberKind.Suffixed n.fraction.isSome suffix type ∧ t.slice source = n.spelling ++ suffix ∧
      (suffix = [] → ∀ c ∈ (t.following source).head?,
        Text.isBlank c = true ∨ (Symbol.isSymbolChar c = true ∧ c ≠ '.'))

/-- Whether a token is read from the characters of a source that stand at its place. -/
def IsReadFrom (t : Token) (source : List Char) : Prop :=
  ∃ front spelling after, source = front ++ (spelling ++ after) ∧
    t.position.offset = front.length ∧ t.position.length = spelling.length ∧
    t.kind.Spells spelling ∧ t.kind.EndsBefore spelling after ∧
    Lexeme.read spelling = .took spelling.length ⟨t.kind, t.value⟩

/-- The slice of a token is what stands at its offset for its length. -/
theorem slice_eq {t : Token} {front spelling : List Char} (after : List Char)
    (hoffset : t.position.offset = front.length) (hlength : t.position.length = spelling.length) :
    t.slice (front ++ (spelling ++ after)) = spelling := by
  rw [slice, hoffset, Int.toNat_natCast, List.drop_left, hlength, Int.toNat_natCast, List.take_left]

/-- A token that is read from a source spans characters inside it. -/
theorem IsReadFrom.inside {t : Token} {source : List Char} (h : t.IsReadFrom source) :
    0 ≤ t.position.offset ∧ 0 < t.position.length ∧ t.position.endOffset ≤ source.length := by
  obtain ⟨front, spelling, after, rfl, hoffset, hlength, hspells, -, -⟩ := h
  have hpos := List.length_pos_iff.mpr hspells.ne_nil
  simp only [Position.endOffset, hoffset, hlength, List.length_append]
  omega

/-- A token that is read from a source spans a lexeme of its kind. -/
theorem IsReadFrom.isLexemeOf {t : Token} {source : List Char} (h : t.IsReadFrom source) :
    t.IsLexemeOf source := by
  obtain ⟨front, spelling, after, rfl, hoffset, hlength, hspells, hends, hread⟩ := h
  have hdrop : (front ++ (spelling ++ after)).drop t.position.offset.toNat = spelling ++ after := by
    rw [hoffset, Int.toNat_natCast, List.drop_left]
  have hslice : t.slice (front ++ (spelling ++ after)) = spelling := slice_eq after hoffset hlength
  have hfollowing : t.following (front ++ (spelling ++ after)) = after := by
    rw [following, Position.endOffset, hoffset, hlength, ← Int.natCast_add, Int.toNat_natCast,
      ← List.append_assoc, ← List.length_append, List.drop_left]
  unfold IsLexemeOf
  rw [hslice, hfollowing, hdrop]
  obtain ⟨kind, value, position⟩ := t
  cases kind with
  | word =>
    have hbare := Lexeme.read_word hspells (Kind.endsBefore_nil _ _)
    rw [List.append_nil, hread, Reading.took.injEq, Lexeme.mk.injEq] at hbare
    exact ⟨hspells.1, hspells.2, hbare.2.2, hends⟩
  | symbol s =>
    obtain rfl : spelling = s.spelling := hspells
    have hbare := Lexeme.read_symbol (Kind.endsBefore_nil (.symbol s) s.spelling)
    rw [List.append_nil, hread, Reading.took.injEq, Lexeme.ofSymbol, Lexeme.mk.injEq] at hbare
    exact ⟨rfl, hbare.2.2, Symbol.isLongest_iff.mpr hends⟩
  | literal => exact hspells
  | number type =>
    obtain ⟨n, suffix, hn, hs, rfl⟩ := hspells
    refine ⟨n, suffix, hn, hs, rfl, ?_⟩
    rintro rfl
    exact hends ⟨n, hn, List.append_nil _⟩

end Token

namespace Laid

/-- Tokens stand at or after the start. -/
theorem le_offset {start : Nat} {pieces : List Piece} {tokens : List Token}
    (h : Laid start pieces tokens) : ∀ t ∈ tokens, (start : Int) ≤ t.position.offset := by
  induction h with
  | nil start => intro t ht; cases ht
  | cons hkind hread hoffset hlength htail ih =>
    intro u hu
    rcases List.mem_cons.mp hu with rfl | hu
    · rw [hoffset]
      omega
    · have hle := ih u hu
      omega

/-- Tokens stand in order and do not overlap. -/
theorem pairwise {start : Nat} {pieces : List Piece} {tokens : List Token}
    (h : Laid start pieces tokens) :
    tokens.Pairwise fun a b => a.position.endOffset ≤ b.position.offset := by
  induction h with
  | nil start => exact .nil
  | cons hkind hread hoffset hlength htail ih =>
    refine .cons (fun u hu => ?_) ih
    have hle := htail.le_offset u hu
    rw [Position.endOffset, hoffset, hlength]
    omega

/-- Each token is read from the characters at its place. -/
theorem isReadFrom {start : Nat} {pieces : List Piece} {tokens : List Token}
    (h : Laid start pieces tokens) {before last : List Char} (hbefore : before.length = start)
    (hproper : Piece.AreProper pieces last) :
    ∀ t ∈ tokens, t.IsReadFrom (before ++ Piece.join pieces last) := by
  induction h generalizing before with
  | nil start => intro t ht; cases ht
  | @cons start p t others tokens hkind hread hoffset hlength _ ih =>
    obtain ⟨-, hspells, hends, hothers⟩ := hproper
    intro u hu
    rcases List.mem_cons.mp hu with rfl | hu
    · refine ⟨before ++ p.gap, p.spelling, Piece.join others last, ?_, ?_, hlength, ?_, ?_, hread⟩
      · rw [Piece.join, List.append_assoc]
      · rw [hoffset, List.length_append, hbefore]
      · rw [hkind]
        exact hspells
      · rw [hkind]
        exact hends
    · have hlen : (before ++ (p.gap ++ p.spelling)).length =
          start + p.gap.length + p.spelling.length := by
        rw [List.length_append, List.length_append, hbefore, Nat.add_assoc]
      have hread' := ih hlen hothers u hu
      rw [List.append_assoc, List.append_assoc] at hread'
      exact hread'

/-- A character that no token spans is blank. -/
theorem isBlank_of_uncovered {start : Nat} {pieces : List Piece} {tokens : List Token}
    (h : Laid start pieces tokens) {last : List Char} (hproper : Piece.AreProper pieces last)
    {i : Nat} {c : Char} (hc : (Piece.join pieces last)[i]? = some c)
    (hout : ∀ t ∈ tokens, ¬ t.Covers (start + i)) : Text.isBlank c = true := by
  induction h generalizing i with
  | nil start => exact hproper c (List.mem_of_getElem? hc)
  | @cons start p t others tokens hkind hread hoffset hlength _ ih =>
    obtain ⟨hgap, -, -, hothers⟩ := hproper
    rw [Piece.join] at hc
    by_cases hi : i < p.gap.length
    · rw [List.getElem?_append_left hi] at hc
      exact hgap c (List.mem_of_getElem? hc)
    · rw [List.getElem?_append_right (by omega)] at hc
      by_cases hi' : i - p.gap.length < p.spelling.length
      · -- the token itself spans the character
        refine absurd ?_ (hout t List.mem_cons_self)
        rw [Token.Covers, Position.endOffset, hoffset, hlength]
        omega
      · rw [List.getElem?_append_right (by omega)] at hc
        refine ih hothers hc fun u hu => ?_
        have hsame : start + p.gap.length + p.spelling.length +
            (i - p.gap.length - p.spelling.length) = start + i := by omega
        rw [hsame]
        exact hout u (List.mem_cons_of_mem _ hu)

end Laid

/-- The tokens of a source have positive lengths, lie inside it, and stand in order without
overlap; a character that none of them spans is a blank; and each spans a lexeme of its kind. -/
theorem tokenize_spans {source : String} {margin : Int} {tokens : List Token}
    (h : tokenize source margin = .ok tokens) :
    (∀ t ∈ tokens, 0 ≤ t.position.offset ∧ 0 < t.position.length ∧
        t.position.endOffset ≤ source.length) ∧
      tokens.Pairwise (fun a b => a.position.endOffset ≤ b.position.offset) ∧
      (∀ (i : Nat) (c : Char), source.toList[i]? = some c → (∀ t ∈ tokens, ¬ t.Covers i) →
        c = ' ' ∨ c = '\t' ∨ c = '\n') ∧
      ∀ t ∈ tokens, t.IsLexemeOf source.toList := by
  obtain ⟨cut, hlaid⟩ := exists_cut_of_tokenize h
  have hread : ∀ t ∈ tokens, t.IsReadFrom source.toList := by
    have hread := hlaid.isReadFrom List.length_nil cut.proper
    rw [cut.joined, List.nil_append] at hread
    exact hread
  refine ⟨fun t ht => (hread t ht).inside, hlaid.pairwise, fun i c hc hout => ?_,
    fun t ht => (hread t ht).isLexemeOf⟩
  rw [← cut.joined] at hc
  have hblank : Text.isBlank c = true := by
    refine hlaid.isBlank_of_uncovered cut.proper hc fun t ht => ?_
    rw [Nat.zero_add]
    exact hout t ht
  simpa [Text.isBlank, or_assoc] using hblank

/-- A source with a symbol of two characters, a newline, a number with a mark and a size, and a
literal with an escaped quote, all without blanks in between. -/
theorem tokenize_spans_adjacent :
    let source := "x->\n7Ul\"a\\\"\";"
    let tokens : List Token :=
      [⟨.word, .text "x", ⟨1, 3, 0, 1⟩⟩, ⟨.symbol .lambda, .text "->", ⟨1, 4, 1, 2⟩⟩,
       ⟨.number (.unsigned .long), .int 7, ⟨2, 3, 4, 3⟩⟩, ⟨.literal, .text "a\"", ⟨2, 6, 7, 5⟩⟩,
       ⟨.symbol .terminator, .text ";", ⟨2, 11, 12, 1⟩⟩]
    tokenize source 3 = .ok tokens ∧
      tokens.Pairwise (fun a b => a.position.endOffset ≤ b.position.offset) ∧
      ∀ t ∈ tokens, t.IsLexemeOf source.toList := by
  intro source tokens
  have h : tokenize source 3 = .ok tokens := by decide +kernel
  exact ⟨h, (tokenize_spans h).2.1, (tokenize_spans h).2.2.2⟩

/-! ## Tokenizing along a cut -/

/-- The kind, the offset and the length of a token. -/
def Token.span (t : Token) : Kind × Int × Int :=
  (t.kind, t.position.offset, t.position.length)

theorem Laid.map_span {start : Nat} {pieces : List Piece} {tokens : List Token}
    (h : Laid start pieces tokens) : tokens.map Token.span = Piece.spans start pieces := by
  induction h with
  | nil start => rfl
  | cons hkind hread hoffset hlength htail ih =>
    rw [List.map_cons, ih, Token.span, hkind, hoffset, hlength, Piece.spans]

/-- What a token is, wherever it stands: its kind, its value and its length. -/
def Token.content (t : Token) : Kind × Value × Int :=
  (t.kind, t.value, t.position.length)

/-- What the tokens of some pieces are is determined by the characters of the lexemes. -/
theorem Laid.map_content {start otherStart : Nat} {pieces others : List Piece}
    {tokens otherTokens : List Token} (h : Laid start pieces tokens)
    (hother : Laid otherStart others otherTokens)
    (hsame : pieces.map (·.spelling) = others.map (·.spelling)) :
    tokens.map Token.content = otherTokens.map Token.content := by
  induction h generalizing otherStart others otherTokens with
  | nil start =>
    cases hother with
    | nil => rfl
    | cons => cases hsame
  | @cons start p t pieces tokens hkind hread hoffset hlength _ ih =>
    cases hother with
    | nil => cases hsame
    | @cons _ q u others otherTokens hkind' hread' hoffset' hlength' htail' =>
      rw [List.map_cons, List.map_cons, List.cons.injEq] at hsame
      rw [hsame.1, hread', Reading.took.injEq, Lexeme.mk.injEq] at hread
      rw [List.map_cons, List.map_cons, ih htail' hsame.2, Token.content, Token.content, hlength,
        hlength', hsame.1, hread.2.1, hread.2.2]

/-- The slices of the tokens are the lexemes of the pieces. -/
theorem Laid.map_slice {start : Nat} {pieces : List Piece} {tokens : List Token}
    (h : Laid start pieces tokens) {before : List Char} (last : List Char)
    (hbefore : before.length = start) :
    tokens.map (·.slice (before ++ Piece.join pieces last)) = pieces.map (·.spelling) := by
  induction h generalizing before with
  | nil start => rfl
  | @cons start p t others tokens hkind hread hoffset hlength _ ih =>
    have hlen : (before ++ p.gap ++ p.spelling).length =
        start + p.gap.length + p.spelling.length := by
      rw [List.length_append, List.length_append, hbefore]
    have htail := ih hlen
    rw [List.append_assoc] at htail
    have hjoin : before ++ Piece.join (p :: others) last =
        before ++ p.gap ++ (p.spelling ++ Piece.join others last) := by
      rw [Piece.join, List.append_assoc]
    rw [hjoin, List.map_cons, List.map_cons, htail, Token.slice_eq _ ?_ hlength]
    rw [hoffset, List.length_append, hbefore]

/-- A source has at most one cut, since its tokens have the spans of any. -/
theorem Cut.eq_of_source {source : String} (cut other : Cut source.toList) : other = cut := by
  obtain ⟨tokens, hok, hlaid⟩ := exists_tokenize_of_cut cut 0
  obtain ⟨tokens', hok', hlaid'⟩ := exists_tokenize_of_cut other 0
  rw [hok] at hok'
  cases hok'
  have hspans : Piece.spans 0 other.pieces = Piece.spans 0 cut.pieces := by
    rw [← hlaid'.map_span, hlaid.map_span]
  have hjoin := other.joined.trans cut.joined.symm
  obtain ⟨pieces, last, _, _⟩ := cut
  obtain ⟨pieces', last', _, _⟩ := other
  obtain ⟨rfl, rfl⟩ := Piece.eq_of_spans hspans hjoin
  rfl

/-- A source that has a cut is tokenized for every margin, into one token for each lexeme of the
cut, with its kind, its place and its characters; and it has no other cut. -/
theorem tokenize_cut {source : String} (cut : Cut source.toList) (margin : Int) :
    (∃ tokens, tokenize source margin = .ok tokens ∧
      tokens.map Token.span = Piece.spans 0 cut.pieces ∧
      tokens.map (·.slice source.toList) = cut.pieces.map (·.spelling)) ∧
      ∀ other : Cut source.toList, other = cut := by
  obtain ⟨tokens, hok, hlaid⟩ := exists_tokenize_of_cut cut margin
  have hslices := hlaid.map_slice cut.last List.length_nil
  rw [List.nil_append, cut.joined] at hslices
  exact ⟨⟨tokens, hok, hlaid.map_span, hslices⟩, cut.eq_of_source⟩

/-- A number right after a word, and a symbol right after a number without suffix. -/
theorem tokenize_cut_adjacent :
    ∃ cut : Cut "f1.5->9us\n".toList,
      cut.pieces = [⟨[], .word, ['f']⟩, ⟨[], .number .float, ['1', '.', '5']⟩,
        ⟨[], .symbol .lambda, ['-', '>']⟩,
        ⟨[], .number (.unsigned .short), ['9', 'u', 's']⟩] ∧ cut.last = ['\n'] ∧
      (∃ tokens, tokenize "f1.5->9us\n" 0 = .ok tokens ∧
        tokens.map Token.span = Piece.spans 0 cut.pieces ∧
        tokens.map (·.slice "f1.5->9us\n".toList) = cut.pieces.map (·.spelling)) ∧
      ∀ other, other = cut := by
  refine ⟨⟨_, _, ?_, ?_⟩, rfl, rfl, tokenize_cut _ 0⟩
  · decide
  · refine ⟨by simp, ⟨by simp, List.all_eq_true.mp rfl⟩, ?_, by simp, ?_, ?_, by simp, rfl, ?_,
      by simp, ?_, ?_, ?_⟩
    · intro c hc
      cases hc
      decide
    · exact ⟨⟨false, ['1'], some ['5']⟩, [], ⟨rfl, by simp, List.all_eq_true.mp rfl, by simp⟩,
        Or.inl ⟨rfl, rfl⟩, rfl⟩
    · rintro - c hc
      cases hc
      decide
    · intro c hc t
      cases hc
      cases t <;> decide
    · exact ⟨⟨false, ['9'], none⟩, ['u', 's'], ⟨rfl, by simp, List.all_eq_true.mp rfl, by simp⟩,
        Or.inr (by decide), rfl⟩
    · rintro - c hc
      cases hc
      decide
    · exact List.all_eq_true.mp rfl

end ScriptFront
