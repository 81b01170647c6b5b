import ScriptFront.Proofs.Lexing.Outcome

/-!
# What lexical errors point at

An error has an offset, and most errors are about one character. Here the two are compared, kind by
kind (`LexError.Points`):

* `StuckAt.points`: where a text gets stuck, the characters that are left say what stands at the
  offset of the error;
* `tokenize_points`: so every error that is reported points at the character that its text quotes,
  at the second point of a number, or at the end of the source.

There is one exception. A character that is no number type is consumed before it is refused, so its
error points behind it (`tokenize_points_behind`).
-/

namespace ScriptFront

namespace LexError

/-- Whether a character of a source stands at the offset of an error. -/
def StandsAt (e : LexError) (source : String) (c : Char) : Prop :=
  ∃ offset < source.length, e.offset = offset ∧ source.toList[offset]? = some c

/-- Whether a character of a source stands right before the offset of an error, in the same row. -/
def StandsBehind (e : LexError) (source : String) (margin : Int) (c : Char) : Prop :=
  ∃ offset < source.length, e.offset = offset + 1 ∧ source.toList[offset]? = some c ∧
    e.row = (Place.after margin (source.toList.take offset)).row ∧
    e.column = (Place.after margin (source.toList.take offset)).column + 1

/-- Whether the second point of a number stands at the offset of an error: the lexemes before the
number have been read, and the number has digits and one point up to there. -/
def StandsAtSecondPoint (e : LexError) (source : String) : Prop :=
  ∃ (entries : List Outline.Entry) (start : Nat) (n : Numeral) (rest : List Char),
    ReadsTo 0 source.toList entries start (n.spelling ++ '.' :: rest) ∧
    n.IsPlain ∧ n.fraction.isSome = true ∧ e.offset = (start + n.spelling.length : Nat) ∧
    e.StandsAt source '.'

/-- Whether the text of an error is some words and a quoted character. -/
def Quotes (e : LexError) (words : String) (c : Char) : Prop :=
  e.text = words ++ String.ofList (Text.quote [c])

/-- What the place of an error has to do with what the error is about. -/
def Points (e : LexError) (source : String) (margin : Int) : Prop :=
  match e.kind with
  | some .unexpectedCharacter => ∃ c, e.Quotes "unexpected character " c ∧ e.StandsAt source c
  | some .unknownIntegerType => ∃ c, e.Quotes "unknown integer type " c ∧ e.StandsAt source c
  | some .unknownNumberType =>
    ∃ c, e.Quotes "unknown number type " c ∧ e.StandsBehind source margin c
  | some .doubleDecimalPoint => e.StandsAtSecondPoint source
  | _ => e.offset = source.length

end LexError

/-- The place behind a character that is no newline is one column further on. -/
theorem Place.after_take_succ (margin : Int) {text : List Char} {n : Nat} {c : Char}
    (hc : text[n]? = some c) (hrow : c ≠ '\n') :
    (after margin (text.take (n + 1))).row = (after margin (text.take n)).row ∧
      (after margin (text.take (n + 1))).column = (after margin (text.take n)).column + 1 := by
  have htake : text.take (n + 1) = text.take n ++ [c] := by
    rw [List.take_add_one, hc]
    rfl
  rw [htake, ← next_after, next, if_neg hrow]
  exact ⟨rfl, rfl⟩

namespace StuckAt

variable {source : String} {rest : List Char} {stop width : Nat} {cause : Cause}

/-- What stands some characters into the rest, and that it lies within the source. -/
theorem getElem?_add (h : StuckAt source.toList stop rest width cause) {i : Nat} {c : Char}
    (hc : rest[i]? = some c) :
    stop + i < source.length ∧ source.toList[stop + i]? = some c := by
  obtain ⟨hdrop, hlength⟩ := h.drop_eq
  have hget : source.toList[stop + i]? = some c := by
    rw [← List.getElem?_drop, hdrop, hc]
  refine ⟨?_, hget⟩
  rw [← String.length_toList]
  exact (List.getElem?_eq_some_iff.mp hget).1

/-- The error of a text that gets stuck, for each way in which reading a lexeme fails. -/
theorem points (h : StuckAt source.toList stop rest width cause) (margin : Int) :
    (((TextCursor.start source margin).move (stop + width)).error cause).Points source margin := by
  have hwithin : stop + width ≤ source.length :=
    (outline_within_source source).2 _ _ h.fault?_eq
  have hlength := h.drop_eq.2
  rw [String.length_toList] at hlength
  rw [TextCursor.error_move_start source margin hwithin]
  cases Lexeme.fails_of_read h.ne_nil h.failed with
  | literal hrest =>
    show ((stop + _ : Nat) : Int) = source.length
    rw [hlength, List.length_cons]
  | @point n tail hn hpoint =>
    obtain ⟨entries, hreads⟩ := h.reads
    have hget : (n.spelling ++ '.' :: tail)[n.spelling.length]? = some '.' := by simp
    obtain ⟨hlt, hat⟩ := h.getElem?_add hget
    exact ⟨entries, stop, n, tail, hreads, hn, hpoint, rfl, _, hlt, rfl, hat⟩
  | noSize hn hmark =>
    show ((stop + _ : Nat) : Int) = source.length
    rw [hlength, List.length_append, List.length_singleton]
  | @size n mark c tail hn hmark hsize =>
    have hget : (n.spelling ++ mark :: c :: tail)[n.spelling.length + 1]? = some c := by simp
    obtain ⟨hlt, hat⟩ := h.getElem?_add hget
    exact ⟨c, rfl, _, hlt, rfl, hat⟩
  | @type n c tail hn hdigit hmark hspace hsymbol htype =>
    have hget : (n.spelling ++ c :: tail)[n.spelling.length]? = some c := by simp
    obtain ⟨hlt, hat⟩ := h.getElem?_add hget
    have hrow : c ≠ '\n' := by
      rintro rfl
      exact absurd hspace (by decide)
    obtain ⟨hsame, hnext⟩ := Place.after_take_succ margin hat hrow
    refine ⟨c, rfl, stop + n.spelling.length, hlt, rfl, hat, ?_, hnext⟩
    rw [← hsame]
    rfl
  | @character c tail hquote halpha hdigit hsymbol =>
    have hget : (c :: tail)[0]? = some c := rfl
    obtain ⟨hlt, hat⟩ := h.getElem?_add hget
    exact ⟨c, rfl, _, hlt, rfl, hat⟩

end StuckAt

/-- An unexpected character and an unknown integer type are at the offset of their error, inside the
source, and are quoted by its text; a second point is at the offset of its error, and the number
that it is in has another one before it. An unknown number type is quoted as well, but it is right
before the offset of its error, and one column before it. Any other error points at the end of the
source. -/
theorem tokenize_points {source : String} {margin : Int} {e : LexError}
    (h : tokenize source margin = .error (.reported e)) : e.Points source margin := by
  obtain ⟨stop, rest, width, cause, hstuck, -, rfl⟩ := exists_stuckAt_of_tokenize h
  exact hstuck.points margin

/-- A second point in the second row, behind a number that has been read. -/
theorem tokenize_points_second_row :
    ∃ e, tokenize "7i\n1.5.2" 3 = .error (.reported e) ∧
      e.kind = some .doubleDecimalPoint ∧ e.StandsAtSecondPoint "7i\n1.5.2" := by
  have h : tokenize "7i\n1.5.2" 3 = .error (.reported ⟨"unexpected second decimal point",
      some .doubleDecimalPoint, 2, 6, 6, "7i\n1.5.2", 3⟩) := by decide +kernel
  exact ⟨_, h, rfl, tokenize_points h⟩

/-- The error of a number of no type points behind the source, where no character is. -/
theorem tokenize_points_behind :
    ∃ e, tokenize "5x" 0 = .error (.reported e) ∧ e.kind = some .unknownNumberType ∧
      e.Quotes "unknown number type " 'x' ∧ e.offset = 2 ∧ ¬ ∃ c, e.StandsAt "5x" c := by
  have h : tokenize "5x" 0 = .error (.reported ⟨"unknown number type 'x'",
      some .unknownNumberType, 1, 2, 2, "5x", 0⟩) := by decide +kernel
  refine ⟨_, h, rfl, ?_, rfl, ?_⟩
  · rw [LexError.Quotes]
    decide +kernel
  · rintro ⟨c, offset, hlt, hoffset, -⟩
    have hlength : "5x".length = 2 := by decide
    have htwo : (2 : Int) = offset := hoffset
    omega

end ScriptFront
