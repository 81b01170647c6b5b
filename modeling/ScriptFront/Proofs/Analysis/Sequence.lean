import ScriptFront.Proofs.Analysis.Agreement
import ScriptFront.Proofs.Command.Relocation
import ScriptFront.Proofs.Lexing.Newline

/-!
# Scripts one after the other

A script that can be parsed is closed by a terminator, which no character after it can make part of
a longer lexeme. So another script can follow it at once, with nothing in between:

* `ReadsTo.append_of_terminator`: the tokens up to a terminator do not depend on what comes next;
* `tokenize_append_of_ok`, `tokenize_append_of_fault`: what comes next has its own tokens or its own
  error, moved behind the front;
* `parse_append`: so the commands of both scripts follow each other, and an error in the second is
  found again, as much further on as characters or tokens stand before it.
-/

namespace ScriptFront

/-! ## Moving behind a text -/

/-- The number of characters after the last newline. -/
def Text.lastWidth (text : List Char) : Nat :=
  (text.reverse.takeWhile (· ≠ '\n')).length

/-- A column with a text put before it: only the first row shares a line with that text. -/
def Text.columnBehind (front : List Char) (row column : Int) : Int :=
  if row = 1 then column + lastWidth front else column

/-- A token with a text put before its source. -/
def Token.behind (front : String) (t : Token) : Token :=
  { t with position := { t.position with
      row := t.position.row + front.toList.count '\n'
      column := Text.columnBehind front.toList t.position.row t.position.column
      offset := t.position.offset + front.length } }

/-- An error with a text put before its source. -/
def LexError.behind (front : String) (e : LexError) : LexError :=
  { e with
    row := e.row + front.toList.count '\n'
    column := Text.columnBehind front.toList e.row e.column
    offset := e.offset + front.length
    source := front ++ e.source }

theorem Token.keepsLexeme_behind (front : String) : KeepsLexeme (Token.behind front) :=
  ⟨fun _ => rfl, fun _ => rfl⟩

/-- The characters after the last newline of two texts. -/
theorem Text.lastWidth_append (front text : List Char) :
    lastWidth (front ++ text) =
      if text.count '\n' = 0 then lastWidth front + lastWidth text else lastWidth text := by
  rw [lastWidth, lastWidth, lastWidth, List.reverse_append, List.takeWhile_append]
  by_cases hcount : text.count '\n' = 0
  · -- counting back from the end gets past the second text
    have hall : text.reverse.takeWhile (· ≠ '\n') = text.reverse := by
      rw [List.takeWhile_eq_self_iff]
      intro c hc
      have hne : c ≠ '\n' := by
        rintro rfl
        exact List.count_eq_zero.mp hcount (List.mem_reverse.mp hc)
      simpa using hne
    rw [if_pos hcount, hall, if_pos rfl, List.length_append, Nat.add_comm]
  · have hlt : ¬ (text.reverse.takeWhile (· ≠ '\n')).length = text.reverse.length := by
      intro hlength
      have hall := (List.takeWhile_prefix (· ≠ '\n')).eq_of_length hlength
      rw [List.takeWhile_eq_self_iff] at hall
      apply hcount
      rw [List.count_eq_zero]
      intro hmem
      have hnewline := hall '\n' (List.mem_reverse.mpr hmem)
      simp at hnewline
    rw [if_neg hcount, if_neg hlt]

/-- The place behind two texts. -/
theorem Place.after_append (margin : Int) (front text : List Char) :
    after margin (front ++ text) =
      ⟨(after margin text).offset + front.length, (after margin text).row + front.count '\n',
        Text.columnBehind front (after margin text).row (after margin text).column⟩ := by
  have hwidth := Text.lastWidth_append front text
  rw [Text.lastWidth, Text.lastWidth, Text.lastWidth] at hwidth
  rw [after, after, hwidth, List.length_append, List.count_append, Text.columnBehind,
    Text.lastWidth, Place.mk.injEq]
  dsimp only
  refine ⟨by omega, by omega, ?_⟩
  by_cases hcount : text.count '\n' = 0
  · rw [if_pos hcount, if_pos (by omega)]
    omega
  · rw [if_neg hcount, if_neg (by omega)]

namespace TextCursor

/-- The place of an offset in the second of two texts. -/
theorem place_move_behind (first : String) {second : String} {n : Nat} (hn : n ≤ second.length)
    (margin : Int) :
    ((start (first ++ second) margin).move (first.length + n)).place =
      ⟨((start second margin).move n).place.offset + first.length,
        ((start second margin).move n).place.row + first.toList.count '\n',
        Text.columnBehind first.toList ((start second margin).move n).place.row
          ((start second margin).move n).place.column⟩ := by
  have hle : first.length + n ≤ (first ++ second).length := by
    rw [String.length_append]
    omega
  rw [place_move_start _ margin hle, place_move_start _ margin hn, String.toList_append,
    ← String.length_toList, List.take_length_add_append, Place.after_append]

/-- An error in the second of two texts is moved behind the first. -/
theorem error_behind (first : String) {second : String} {n : Nat} (hn : n ≤ second.length)
    (margin : Int) (cause : Cause) :
    ((start (first ++ second) margin).move (first.length + n)).error cause =
      (((start second margin).move n).error cause).behind first := by
  rw [error, error, place_move_behind first hn, source_move, margin_move, margin_move, source_move]
  rfl

/-- An error behind another text is reported, unless the whole or the margin is enormous. -/
theorem failure_behind {first second : String} {margin : Int} {n : Nat} (hn : n ≤ second.length)
    (hsmall : 1 + (first ++ second).length + margin.natAbs < Text.unwritable) (cause : Cause) :
    ((((start second margin).move n).error cause).behind first).failure =
      .reported ((((start second margin).move n).error cause).behind first) := by
  have hle : first.length + n ≤ (first ++ second).length := by
    rw [String.length_append]
    omega
  rw [← error_behind first hn, failure_eq_reported hle hsmall]

end TextCursor

/-- An entry of the second of two texts has its token moved behind the first. -/
theorem Outline.Entry.token_behind (first : String) {second : String} {e : Outline.Entry}
    (he : e.offset ≤ second.length) (margin : Int) :
    token (.start (first ++ second) margin) { e with offset := first.length + e.offset } =
      (e.token (.start second margin)).behind first := by
  rw [token, token, TextCursor.token, TextCursor.token, TextCursor.place_move_behind first he]
  rfl

/-! ## Texts closed by a terminator -/

/-- No longer symbol starts with a terminator. -/
theorem Symbol.endsBefore_terminator {spelling : List Char}
    (h : (Kind.symbol .terminator).Spells spelling) (after : List Char) :
    (Kind.symbol .terminator).EndsBefore spelling after := by
  obtain rfl : spelling = [';'] := h
  -- the spellings of two characters all start with another one
  intro c _ t ht
  cases t <;> simp [spelling] at ht

theorem ReadsTo.entries_eq_nil {start stop : Nat} {rest : List Char} {entries : List Outline.Entry}
    (h : ReadsTo start [] entries stop rest) : entries = [] := by
  cases h with
  | done => rfl
  | took hread _ => cases hread

/-- The same entries are read off a longer text, if the last of them is a terminator. -/
theorem ReadsTo.append_of_terminator {start stop : Nat} {text rest : List Char}
    {entries : List Outline.Entry} (h : ReadsTo start text entries stop rest)
    (hlast : ∀ e ∈ entries.getLast?, e.lexeme.kind = .symbol .terminator) (more : List Char) :
    ReadsTo start (text ++ more) entries stop (rest ++ more) := by
  induction h with
  | done start rest => exact .done start _
  | blank hc _ ih => exact .blank hc (ih hlast)
  | @took start stop width text rest lexeme entries hread htail ih =>
    have hwidth := Lexeme.width_le_of_read hread
    have hdrop : (text ++ more).drop width = text.drop width ++ more :=
      List.drop_append_of_le_length hwidth
    by_cases hentries : entries = []
    · -- this is the terminator
      subst hentries
      have hkind : lexeme.kind = .symbol .terminator := hlast _ rfl
      have hread' : Lexeme.read (text ++ more) = .took width lexeme := by
        apply Lexeme.read_append_of_endsBefore hread
        rw [hkind]
        intro spelling hspells
        exact Symbol.endsBefore_terminator hspells more
      exact .took hread' (by rw [hdrop]; exact ih (by simp))
    · -- another lexeme follows, so this one has ended
      have hlt : width < text.length := by
        by_contra hle
        rw [List.drop_of_length_le (by omega)] at htail
        exact hentries htail.entries_eq_nil
      rw [List.getLast?_cons_of_ne_nil hentries] at hlast
      exact .took (Lexeme.read_append_of_lt hread hlt more) (by rw [hdrop]; exact ih hlast)

/-- Text after a terminator has an outline of its own. -/
theorem outline_append {first : List Char} (h : (outline 0 first).fault? = none)
    (hlast : ∀ e ∈ (outline 0 first).entries.getLast?, e.lexeme.kind = .symbol .terminator)
    (second : List Char) :
    outline 0 (first ++ second) =
      ((outline 0 second).shift first.length).prepend (outline 0 first).entries := by
  have hjoined := ((readsTo_of_fault?_eq_none h).append_of_terminator hlast second).outline_eq
  rw [List.nil_append, Nat.zero_add] at hjoined
  rw [hjoined, ← outline_add, Nat.add_zero]

/-- The tokens of a script end with a terminator. -/
theorem Command.Framed.kind_getLast? {commands : List Command} {tokens : List Token}
    (h : Framed commands tokens) : ∀ t ∈ tokens.getLast?, t.kind = .symbol .terminator := by
  induction h with
  | nil => simp
  | @cons opener closer body tokens commands _ _ hcloser _ ih =>
    have hlast : (opener :: (body ++ closer :: tokens)).getLast? = (closer :: tokens).getLast? := by
      simp [List.getLast?_cons, List.getLast?_append]
    rw [hlast]
    -- the last token closes this command or belongs to a later one
    by_cases htokens : tokens = []
    · subst htokens
      intro t ht
      cases ht
      exact hcloser
    · rw [List.getLast?_cons_of_ne_nil htokens]
      exact ih

/-! ## Two scripts -/

section

variable {first second : String} {margin : Int} {tokens : List Token}

/-- The outline of two texts, if the tokens of the first end with a terminator. -/
theorem outline_append_of_tokenize (hfirst : tokenize first margin = .ok tokens)
    (hlast : ∀ t ∈ tokens.getLast?, t.kind = .symbol .terminator) (second : String) :
    outline 0 (first ++ second).toList =
      ((outline 0 second.toList).shift first.length).prepend (outline 0 first.toList).entries := by
  obtain ⟨hnone, rfl⟩ := tokenize_eq_ok_iff.mp hfirst
  rw [String.toList_append, outline_append hnone, String.length_toList]
  intro e he
  have hmem : e.token (.start first margin) ∈ ((outline 0 first.toList).entries.map
      (Outline.Entry.token (.start first margin))).getLast? := by
    rw [List.getLast?_map]
    exact Option.mem_map_of_mem _ he
  exact hlast _ hmem

/-- The tokens of the second text follow those of the first. -/
theorem tokenize_append_of_ok (hfirst : tokenize first margin = .ok tokens)
    (hlast : ∀ t ∈ tokens.getLast?, t.kind = .symbol .terminator) {others : List Token}
    (hsecond : tokenize second margin = .ok others) :
    tokenize (first ++ second) margin = .ok (tokens ++ others.map (Token.behind first)) := by
  have houtline := outline_append_of_tokenize hfirst hlast second
  obtain ⟨-, rfl⟩ := tokenize_eq_ok_iff.mp hfirst
  obtain ⟨hnone, rfl⟩ := tokenize_eq_ok_iff.mp hsecond
  refine tokenize_eq_ok_iff.mpr ?_
  rw [houtline, Outline.fault?_prepend, Outline.entries_prepend, Outline.shift, List.map_append,
    List.map_map, List.map_map]
  refine ⟨by rw [hnone]; rfl, congrArg₂ _ ?_ ?_⟩
  · refine List.map_congr_left fun e he => ?_
    rw [Outline.Entry.token_append ((outline_within_source first).1 e he)]
  · refine List.map_congr_left fun e he => ?_
    exact (Outline.Entry.token_behind first ((outline_within_source second).1 e he) margin).symm

/-- A fault in the second text is one in both. -/
theorem tokenize_append_of_fault (hfirst : tokenize first margin = .ok tokens)
    (hlast : ∀ t ∈ tokens.getLast?, t.kind = .symbol .terminator) {n : Nat} {cause : Cause}
    (hfault : (outline 0 second.toList).fault? = some (n, cause)) :
    tokenize (first ++ second) margin =
      .error ((((TextCursor.start second margin).move n).error cause).behind first).failure := by
  have hn := (outline_within_source second).2 n cause hfault
  refine tokenize_eq_error_iff.mpr ⟨first.length + n, cause, ?_, ?_⟩
  · rw [outline_append_of_tokenize hfirst hlast, Outline.fault?_prepend, Outline.shift, hfault]
    rfl
  · rw [TextCursor.error_behind first hn]

/-- If the second script has tokens, its tree is built behind that of the first. -/
theorem parse_append_of_ok {commands : List Command} (hfirst : tokenize first margin = .ok tokens)
    (hframed : Command.Framed commands tokens) {others : List Token}
    (hsecond : tokenize second margin = .ok others) :
    parse (first ++ second) margin =
      match buildTree others (some second) margin with
      | .ok more => .ok (commands ++ more.map (Command.map (Token.behind first)))
      | .error (.reported e) => .error (.reported (.parse
          (e.relocated (Token.behind first) tokens.length (some (first ++ second)) margin)))
      | .error (.abort reason) => .error (.abort reason) := by
  have htree := buildTree_append_map (Token.keepsLexeme_behind first) hframed others (some second)
    (some (first ++ second)) margin margin
  rw [parse_eq, tokenize_append_of_ok hfirst hframed.kind_getLast? hsecond]
  dsimp only
  rw [htree]
  cases buildTree others (some second) margin with
  | ok more => rfl
  | error failure => cases failure <;> rfl

/-- If the second script has a fault, both end with its error, moved behind the first. -/
theorem parse_append_of_fault {commands : List Command}
    (hfirst : tokenize first margin = .ok tokens) (hframed : Command.Framed commands tokens)
    {n : Nat} {cause : Cause} (hfault : (outline 0 second.toList).fault? = some (n, cause)) :
    parse (first ++ second) margin =
      .error (((((TextCursor.start second margin).move n).error cause).behind first).failure.widen
        .lex) := by
  rw [parse_eq, tokenize_append_of_fault hfirst hframed.kind_getLast? hfault]

end

/-- A script that follows another one at once is parsed as it is on its own: its commands come next,
or its error is met, as many characters and rows further on, or as many tokens, as stand before. A
lexical error is reported unless its row or its column gets too long to be written, for which the
whole or the margin has to be enormous. -/
theorem parse_append {first : String} {margin : Int} {commands : List Command}
    (h : parse first margin = .ok commands) (second : String) :
    let joined := first ++ second
    ((∃ all, parse joined margin = .ok all) ↔ ∃ others, parse second margin = .ok others) ∧
      (∀ others, parse second margin = .ok others →
        parse joined margin =
          .ok (commands ++ others.map (Command.map (Token.behind first)))) ∧
      (∀ e, parse second margin = .error (.reported (.lex e)) →
        parse joined margin = .error ((e.behind first).failure.widen .lex) ∧
          (1 + joined.length + margin.natAbs < Text.unwritable →
            parse joined margin = .error (.reported (.lex (e.behind first))))) ∧
      ∀ e, parse second margin = .error (.reported (.parse e)) →
        ∃ tokens, tokenize first margin = .ok tokens ∧
          parse joined margin = .error (.reported (.parse
            (e.relocated (Token.behind first) tokens.length (some joined) margin))) := by
  intro joined
  obtain ⟨tokens, hfirst, hbuild⟩ := parse_eq_ok_iff.mp h
  have hframed := framed_of_buildTree hbuild
  have hok : ∀ others, parse second margin = .ok others →
      parse joined margin = .ok (commands ++ others.map (Command.map (Token.behind first))) := by
    intro others hothers
    obtain ⟨ts, hts, htree⟩ := parse_eq_ok_iff.mp hothers
    rw [parse_append_of_ok hfirst hframed hts, htree]
  refine ⟨⟨?_, ?_⟩, hok, ?_, ?_⟩
  · -- whichever stage the second script fails at, the whole fails there too
    rintro ⟨all, hall⟩
    cases hsecond : tokenize second margin with
    | error failure =>
      obtain ⟨n, cause, hfault, -⟩ := tokenize_eq_error_iff.mp hsecond
      rw [parse_append_of_fault hfirst hframed hfault] at hall
      cases hall
    | ok ts =>
      rw [parse_append_of_ok hfirst hframed hsecond] at hall
      split at hall
      · rename_i more hmore
        exact ⟨more, parse_eq_ok_iff.mpr ⟨ts, hsecond, hmore⟩⟩
      · cases hall
      · cases hall
  · rintro ⟨others, hothers⟩
    exact ⟨_, hok others hothers⟩
  · intro e he
    obtain ⟨n, cause, hfault, hn, rfl⟩ := exists_fault_of_reported (parse_eq_lex_iff.mp he)
    have hjoined := parse_append_of_fault hfirst hframed hfault
    refine ⟨hjoined, ?_⟩
    intro hsmall
    rw [hjoined, TextCursor.failure_behind hn hsmall]
    rfl
  · intro e he
    obtain ⟨ts, hts, htree⟩ := parse_eq_parse_iff.mp he
    refine ⟨tokens, hfirst, ?_⟩
    rw [parse_append_of_ok hfirst hframed hts, htree]

/-- Behind a script of two rows: a command, a lexical error, and a token that opens no command. -/
theorem parse_append_second_row :
    let first := "/a;\n/b; "
    let commands : List Command :=
      [⟨[⟨.word, .text "a", ⟨1, 3, 1, 1⟩⟩]⟩, ⟨[⟨.word, .text "b", ⟨2, 3, 5, 1⟩⟩]⟩]
    parse first 2 = .ok commands ∧
      parse (first ++ "/c;") 2 =
        .ok (commands ++ [⟨[⟨.word, .text "c", ⟨2, 7, 9, 1⟩⟩]⟩]) ∧
      parse (first ++ "/ $") 2 = .error (.reported (.lex ⟨"unexpected character '$'",
        some .unexpectedCharacter, 2, 8, 10, first ++ "/ $", 2⟩)) ∧
      parse (first ++ "c;") 2 = .error (.reported (.parse ⟨"unexpected token 'c' (generic)",
        some .unexpectedToken, 6, some ⟨.word, .text "c", ⟨2, 6, 8, 1⟩⟩, some (first ++ "c;"),
        2⟩)) := by
  intro first commands
  have hfirst : parse first 2 = .ok commands := by decide +kernel
  have hcommand : parse "/c;" 2 = .ok [⟨[⟨.word, .text "c", ⟨1, 3, 1, 1⟩⟩]⟩] := by decide +kernel
  have hlex : parse "/ $" 2 = .error (.reported (.lex ⟨"unexpected character '$'",
      some .unexpectedCharacter, 1, 4, 2, "/ $", 2⟩)) := by decide +kernel
  have hstray : parse "c;" 2 = .error (.reported (.parse ⟨"unexpected token 'c' (generic)",
      some .unexpectedToken, 0, some ⟨.word, .text "c", ⟨1, 2, 0, 1⟩⟩, some "c;", 2⟩)) := by
    decide +kernel
  have hcount : first.toList.count '\n' = 1 := by decide
  have hlength : first.length = 8 := by decide
  have hwidth : Text.lastWidth first.toList = 4 := by decide
  refine ⟨hfirst, ?_, ?_, ?_⟩
  · rw [(parse_append hfirst "/c;").2.1 _ hcommand]
    simp [Command.map, Token.behind, Text.columnBehind, hcount, hlength, hwidth]
  · rw [((parse_append hfirst "/ $").2.2.1 _ hlex).2 (by decide +kernel)]
    simp [LexError.behind, Text.columnBehind, hcount, hlength, hwidth]
  · obtain ⟨tokens, htokens, hparse⟩ := (parse_append hfirst "c;").2.2.2 _ hstray
    have hsix : (tokenize first 2).toOption.map List.length = some 6 := by decide +kernel
    have hindex : tokens.length = 6 := by simpa [htokens, Except.toOption] using hsix
    rw [hparse, hindex]
    simp [ParseError.relocated, Token.behind, Text.columnBehind, hcount, hlength, hwidth]

end ScriptFront
