import ScriptFront.Proofs.Editor.Latest
import ScriptFront.Proofs.Text.Rows

/-!
# What the note on a token covers

A note has a start and a stop, each given by a line and a character of the document. The note on a
syntactic error starts at a token, and it stops in the same line, as many characters further on as
the token is long:

* `Point.Marks` says which offset of a document a line and a character stand for;
* `marks_add_iff`: counting on from an offset gives the point of a later one only within the row;
* `Note.Spans`, `notes_cover`: so the note covers the token, unless a newline is in it.

Only a literal can have a newline in it. The note on such a literal stops behind the end of its
first line (`notes_cover_first_line`).
-/

namespace ScriptFront

open Text

/-- What follows an offset is in its row as far as it has no newline. -/
theorem Text.View.length_le_right_iff {text : List Char} {offset : Nat} (v : View text offset)
    {part after : List Char} (h : text.drop offset = part ++ after) :
    part.length ≤ v.right.length ↔ '\n' ∉ part := by
  rw [v.drop_eq] at h
  have hmem : '\n' ∉ v.right := v.not_mem_right
  rcases List.append_eq_append_iff.mp h with ⟨more, rfl, hbelow⟩ | ⟨more, hright, -⟩
  · cases more with
    | nil => simp [hmem]
    | cons c more =>
      -- the row ends inside the part
      obtain rfl : c = '\n' := v.head_below c (by rw [hbelow]; rfl)
      simp
  · rw [hright, List.mem_append, not_or] at hmem
    simp [hright, hmem.1]

namespace Editor

/-- Whether a point of a document is at an offset: the rows above it, each with its newline, and the
characters before it in its own row make up what comes before the offset. -/
def Point.Marks (p : Point) (text : String) (offset : Int) : Prop :=
  ∃ (line character : Nat) (row : List Char), p = ⟨line, character⟩ ∧
    (rows text.toList)[line]? = some row ∧ character ≤ row.length ∧
    offset = (stacked ((rows text.toList).take line)).length + character

/-- A point some characters after an offset is at the offset that is as much larger, as long as it
stays in the row. -/
theorem marks_add_iff {text : String} {offset : Nat} (v : View text.toList offset) (width : Nat) :
    Point.Marks ⟨v.above.length, (v.left.length + width : Nat)⟩ text (offset + width : Nat) ↔
      width ≤ v.right.length := by
  have hrow : v.row.length = v.left.length + v.right.length := List.length_append
  have hoffset := v.offset_eq
  constructor
  · rintro ⟨line, character, row, hpoint, hget, hle, -⟩
    rw [Point.mk.injEq, Int.natCast_inj, Int.natCast_inj] at hpoint
    obtain ⟨rfl, rfl⟩ := hpoint
    rw [v.getElem?_rows, Option.some.injEq] at hget
    subst hget
    omega
  · intro hle
    refine ⟨v.above.length, v.left.length + width, v.row, rfl, v.getElem?_rows, by omega, ?_⟩
    rw [v.take_rows]
    omega

/-- What the range of a note has to do with a token. -/
structure Note.Spans (note : Note) (text : String) (t : Token) : Prop where
  /-- The note starts where the token starts. -/
  start : note.start.Marks text t.position.offset
  /-- It stops where the token stops if no newline is in the token. -/
  stop : note.stop.Marks text t.position.endOffset ↔ '\n' ∉ t.slice text.toList
  /-- Otherwise the token is a literal, and the note stops behind the end of the row that the
  literal starts in. -/
  beyond : '\n' ∈ t.slice text.toList → t.kind = .literal ∧
    ∃ line row, note.start.line = (line : Nat) ∧ note.stop.line = line ∧
      (rows text.toList)[line]? = some row ∧ row.length < note.stop.character

/-- The note on an error that points at a token. -/
theorem spans_parseNote {text : String} {tokens : List Token} (h : tokenize text 0 = .ok tokens)
    {t : Token} (ht : t ∈ tokens) {e : ParseError} (he : e.token = some t) :
    (parseNote e).Spans text t := by
  obtain ⟨front, spelling, after, htext, hoffset, hlength, hspells, -, -⟩ :=
    isReadFrom_of_tokenize h t ht
  obtain ⟨offset, hle, hoffset', hrow, hcolumn⟩ := place_of_tokenize h ht
  -- the place counts the same characters as the front of the text that was read
  obtain rfl : offset = front.length := by omega
  obtain ⟨v⟩ := exists_view (String.length_toList ▸ hle)
  rw [v.place_eq 0] at hrow hcolumn
  dsimp only at hrow hcolumn
  have hslice : t.slice text.toList = spelling := by
    rw [htext]
    exact Token.slice_eq after hoffset hlength
  have hdrop : text.toList.drop front.length = spelling ++ after := by
    rw [htext, List.drop_left]
  have hstart : (parseNote e).start = ⟨v.above.length, (v.left.length + 0 : Nat)⟩ := by
    rw [parseNote_of_token he, Note.error, hrow, hcolumn, Point.mk.injEq]
    omega
  have hstop : (parseNote e).stop = ⟨v.above.length, (v.left.length + spelling.length : Nat)⟩ := by
    rw [parseNote_of_token he, Note.error, hrow, hcolumn, hlength, Point.mk.injEq]
    omega
  have hend : t.position.endOffset = (front.length + spelling.length : Nat) := by
    rw [Position.endOffset, hoffset, hlength]
    omega
  constructor
  · rw [hstart, hoffset]
    exact (marks_add_iff v 0).mpr (Nat.zero_le _)
  · rw [hstop, hend, hslice, marks_add_iff v, v.length_le_right_iff hdrop]
  · rw [hslice, hstart, hstop]
    intro hmem
    have hlong : ¬ spelling.length ≤ v.right.length := by
      rw [v.length_le_right_iff hdrop]
      exact not_not.mpr hmem
    have hwidth : v.row.length = v.left.length + v.right.length := List.length_append
    refine ⟨hspells.eq_literal_of_isSpace hmem rfl, v.above.length, v.row, rfl, rfl,
      v.getElem?_rows, ?_⟩
    dsimp only
    omega

/-- The note on a syntactic error covers the token that the error points at: it starts where the
token starts, and it stops where the token stops, in that line of the document and not behind its
end. The exception are literals with newlines in them: their notes stop in the line where the
literal starts, and behind the end of this line. This note is what is published for an open
document. -/
theorem notes_cover {text : String} {a : Analysis} {e : ParseError}
    (h : analyze text = .ok a) (he : a.parseError = some e) :
    ∃ t note, e.token = some t ∧ notes text = .ok [note] ∧ note.message = e.text ∧
      (∀ {σ ε : Type} (store : Store σ ε) documents uri, store.source documents uri = .ok text →
        store.publish documents uri = .ok ⟨uri, [note]⟩) ∧
      note.Spans text t := by
  obtain ⟨hlex, tokens, htokens, hbuild⟩ := exists_tokens_of_parseError h he
  obtain ⟨t, ht, htoken⟩ := exists_token_of_buildTree hbuild
  have hnotes : notes text = .ok [parseNote e] := by
    rw [notes, h]
    simp only [Except.map, hlex, he]
  refine ⟨t, parseNote e, htoken, hnotes, by rw [parseNote_of_token htoken]; rfl, ?_,
    spans_parseNote htokens ht htoken⟩
  intro σ ε store documents uri hsource
  rw [store.publish_of_source hsource, hnotes]
  rfl

/-- A token in the second line, between others. -/
theorem notes_cover_second_line :
    ∃ note, notes "/a;\n  bc d;" = .ok [note] ∧ note.start.Marks "/a;\n  bc d;" 6 ∧
      note.stop.Marks "/a;\n  bc d;" 8 := by
  let t : Token := ⟨.word, .text "bc", ⟨2, 2, 6, 2⟩⟩
  let e : ParseError := ⟨"unexpected token 'bc' (generic)", some .unexpectedToken, 3, some t,
    some "/a;\n  bc d;", 0⟩
  let tokens : List Token := [⟨.symbol .divide, .text "/", ⟨1, 0, 0, 1⟩⟩,
    ⟨.word, .text "a", ⟨1, 1, 1, 1⟩⟩, ⟨.symbol .terminator, .text ";", ⟨1, 2, 2, 1⟩⟩, t,
    ⟨.word, .text "d", ⟨2, 5, 9, 1⟩⟩, ⟨.symbol .terminator, .text ";", ⟨2, 6, 10, 1⟩⟩]
  have hrecord : analyze "/a;\n  bc d;" =
      .ok ⟨"/a;\n  bc d;", some tokens, none, none, some e⟩ := by
    decide +kernel
  obtain ⟨t', note, ht', hnotes, -, -, hspans⟩ := notes_cover hrecord rfl
  obtain rfl : t = t' := Option.some.inj ht'
  exact ⟨note, hnotes, hspans.start, hspans.stop.mpr (by decide +kernel)⟩

/-- The note on a literal of two lines stops in the first of them, five characters after its start,
where the line has two. -/
theorem notes_cover_first_line :
    ∃ a e t note, analyze "\"a\nb\"" = .ok a ∧ a.parseError = some e ∧ e.token = some t ∧
      notes "\"a\nb\"" = .ok [note] ∧ note.stop = ⟨0, 5⟩ ∧
      ¬ note.stop.Marks "\"a\nb\"" t.position.endOffset := by
  let t : Token := ⟨.literal, .text "a\nb", ⟨1, 0, 0, 5⟩⟩
  let e : ParseError := ⟨"unexpected token 'a\\nb' (literal)", some .unexpectedToken, 0, some t,
    some "\"a\nb\"", 0⟩
  have htokens : tokenize "\"a\nb\"" 0 = .ok [t] := by decide +kernel
  have hrecord : analyze "\"a\nb\"" = .ok ⟨"\"a\nb\"", some [t], none, none, some e⟩ := by
    decide +kernel
  have hnotes : notes "\"a\nb\"" = .ok [parseNote e] := by decide +kernel
  have hspans : (parseNote e).Spans _ t := spans_parseNote htokens List.mem_cons_self rfl
  refine ⟨_, e, t, parseNote e, hrecord, rfl, rfl, hnotes, rfl, ?_⟩
  rw [hspans.stop]
  decide +kernel

end Editor

end ScriptFront
