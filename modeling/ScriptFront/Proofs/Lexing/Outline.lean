import ScriptFront.Proofs.Cursor.Place
import ScriptFront.Proofs.Lexeme.Locality
import ScriptFront.Proofs.Lexing.Cut

/-!
# Outlines of texts

The outline of a text lists the lexemes that are read off it, each with its offset and its width,
and says where and why reading stopped before the end. It does not know rows, columns and margins:

* `tokenize_eq`: tokenizing puts the entries of the outline, or its fault, at their places.

An outline is built up from the front of the text. `ReadsTo` says that some entries are read off
the front and what is left then, with the characters that are left still in sight, so that no
lexeme is cut short:

* `exists_readsTo`: every text is read to its end or to the first failure;
* `ReadsTo.outline_eq`: the outline goes on with that of the characters that are left;
* `ReadsTo.append`: what is read off a text is read off any longer text, unless the last lexeme
  stands at the end of the text and could go on.
-/

namespace ScriptFront

/-- A lexeme that is read off a text: the offset where it starts, the number of its characters, and
what it is. -/
structure Outline.Entry where
  offset : Nat
  width : Nat
  lexeme : Lexeme

/-- The lexemes that are read off a text, and the offset and the cause of the failure if one is
met. -/
structure Outline where
  entries : List Outline.Entry
  fault? : Option (Nat × Cause)

namespace Outline

/-- An outline with more entries in front. -/
def prepend (front : List Entry) (o : Outline) : Outline :=
  ⟨front ++ o.entries, o.fault?⟩

/-- An outline as seen from some characters earlier. -/
def shift (chars : Nat) (o : Outline) : Outline :=
  ⟨o.entries.map fun e => { e with offset := chars + e.offset },
    o.fault?.map fun fault => (chars + fault.1, fault.2)⟩

@[simp] theorem entries_prepend (front : List Entry) (o : Outline) :
    (o.prepend front).entries = front ++ o.entries := rfl

@[simp] theorem fault?_prepend (front : List Entry) (o : Outline) :
    (o.prepend front).fault? = o.fault? := rfl

theorem prepend_nil (o : Outline) : o.prepend [] = o := rfl

theorem prepend_append (front others : List Entry) (o : Outline) :
    o.prepend (front ++ others) = (o.prepend others).prepend front := by
  rw [prepend, prepend, prepend, List.append_assoc]

end Outline

/-- The outline of a text that has been cut, if its first gap starts at a given offset. -/
def Lexing.outline (start : Nat) : Lexing → Outline
  | finished _ => ⟨[], none⟩
  | stuck gap width cause => ⟨[], some (start + gap + width, cause)⟩
  | lexeme gap width head tail =>
    (tail.outline (start + gap + width)).prepend [⟨start + gap, width, head⟩]

/-- The outline of a text that starts at a given offset. -/
def outline (start : Nat) (text : List Char) : Outline :=
  (lex text).outline start

/-! ## Tokens and errors of an outline -/

/-- The token that an entry is, counted from a cursor. -/
def Outline.Entry.token (k : TextCursor) (e : Outline.Entry) : Token :=
  (k.move e.offset).token e.width e.lexeme

/-- Moving along a text that has been cut gives the tokens of its outline, or its fault. -/
theorem TextCursor.follow_eq (k : TextCursor) (start : Nat) (lexing : Lexing) :
    ((k.move start).follow lexing).1 =
      match (lexing.outline start).fault? with
      | none => .ok ((lexing.outline start).entries.map (Outline.Entry.token k))
      | some (n, cause) => .error ((k.move n).error cause).failure := by
  induction lexing generalizing start with
  | finished gap => rfl
  | stuck gap width cause =>
    rw [Lexing.outline, follow, ← move_add, settle, ← move_add]
  | lexeme gap width head tail ih =>
    have htail := ih (start + gap + width)
    rw [move_add, move_add] at htail
    rw [Lexing.outline, Outline.fault?_prepend, Outline.entries_prepend, follow]
    dsimp only
    rw [htail]
    cases (tail.outline (start + gap + width)).fault? with
    | some fault => rfl
    | none =>
      show Except.ok (((k.move start).move gap).token width head :: _) = Except.ok _
      rw [← move_add, List.map_append, List.map_singleton, List.singleton_append]
      rfl

/-- Tokenizing a source puts the entries of its outline, or its fault, at their places. -/
theorem tokenize_eq (source : String) (margin : Int) :
    tokenize source margin =
      match (outline 0 source.toList).fault? with
      | none => .ok ((outline 0 source.toList).entries.map
          (Outline.Entry.token (.start source margin)))
      | some (n, cause) =>
        .error (((TextCursor.start source margin).move n).error cause).failure :=
  TextCursor.follow_eq (.start source margin) 0 (lex source.toList)

/-- A source is tokenized if its outline has no fault. -/
theorem tokenize_eq_ok_iff {source : String} {margin : Int} {tokens : List Token} :
    tokenize source margin = .ok tokens ↔ (outline 0 source.toList).fault? = none ∧
      tokens = (outline 0 source.toList).entries.map
        (Outline.Entry.token (.start source margin)) := by
  rw [tokenize_eq]
  cases (outline 0 source.toList).fault? with
  | none =>
    rw [Except.ok.injEq, eq_comm]
    exact ⟨fun h => ⟨rfl, h⟩, fun h => h.2⟩
  | some fault => exact ⟨fun h => (by cases h), fun h => (by cases h.1)⟩

/-- Otherwise it fails with the error of the fault. -/
theorem tokenize_eq_error_iff {source : String} {margin : Int}
    {failure : Failure LexError Breakdown} :
    tokenize source margin = .error failure ↔
      ∃ n cause, (outline 0 source.toList).fault? = some (n, cause) ∧
        failure = (((TextCursor.start source margin).move n).error cause).failure := by
  rw [tokenize_eq]
  cases (outline 0 source.toList).fault? with
  | none => exact ⟨fun h => (by cases h), fun ⟨n, cause, h, _⟩ => (by cases h)⟩
  | some fault =>
    obtain ⟨n, cause⟩ := fault
    dsimp only
    rw [Except.error.injEq]
    constructor
    · intro h
      exact ⟨n, cause, rfl, h.symm⟩
    · rintro ⟨n', cause', hfault, hfailure⟩
      cases hfault
      exact hfailure.symm

/-- An error is reported as it is, if it can be stated. -/
theorem LexError.failure_eq_reported_iff {e e' : LexError} :
    e.failure = .reported e' ↔ e.isStatable = true ∧ e' = e := by
  unfold failure
  by_cases h : e.isStatable = true
  · rw [if_pos h, Failure.reported.injEq]
    exact ⟨fun heq => ⟨h, heq.symm⟩, fun heq => heq.2.symm⟩
  · rw [if_neg h]
    exact ⟨fun heq => (by cases heq), fun heq => absurd heq.1 h⟩

/-- The place of an offset in a source is that behind the characters before it. -/
theorem TextCursor.place_move_start (source : String) (margin : Int) {n : Nat}
    (hn : n ≤ source.length) :
    ((start source margin).move n).place = .after margin (source.toList.take n) := by
  have hplace := (place_start_move source margin n).2
  have hoffset : ((start source margin).move n).place.offset = n := by
    rw [offset_move]
    show 0 + min n source.toList.length = n
    rw [String.length_toList]
    omega
  rw [hoffset] at hplace
  exact hplace

/-- The place of an offset stays what it is if the source goes on. -/
theorem TextCursor.place_move_append {source : String} {n : Nat} (hn : n ≤ source.length)
    (more : String) (margin : Int) :
    ((start (source ++ more) margin).move n).place = ((start source margin).move n).place := by
  have hle : n ≤ (source ++ more).length := by
    rw [String.length_append]
    omega
  have hlist : n ≤ source.toList.length := by
    rw [String.length_toList]
    exact hn
  rw [place_move_start _ margin hle, place_move_start _ margin hn, String.toList_append,
    List.take_append_of_le_length hlist]

/-! ## Steps of an outline -/

/-- Nothing is read off a blank. -/
theorem Lexeme.not_isBlank_of_read {text : List Char} {width : Nat} {lexeme : Lexeme}
    (h : read text = .took width lexeme) : ∀ c ∈ text.head?, Text.isBlank c = false := by
  intro c hc
  rw [Bool.eq_false_iff]
  intro hblank
  obtain ⟨rest, rfl⟩ := List.head?_eq_some_iff.mp hc
  rw [read_eq_failed_of_isSpace (Text.isSpace_of_isBlank hblank)] at h
  cases h

theorem Lexeme.width_le_of_read {text : List Char} {width : Nat} {lexeme : Lexeme}
    (h : read text = .took width lexeme) : width ≤ text.length := by
  obtain ⟨spelling, after, rfl, rfl, -, -⟩ := spells_of_read h
  rw [List.length_append]
  omega

theorem outline_nil (start : Nat) : outline start [] = ⟨[], none⟩ := by
  rw [outline, lex_blanks (by simp), Lexing.outline]

/-- A blank before a text only moves it on. -/
theorem outline_blank (start : Nat) {c : Char} (hc : Text.isBlank c = true) (text : List Char) :
    outline start (c :: text) = outline (start + 1) text := by
  rw [outline, outline, lex_eq, lex_eq text, List.dropWhile_cons_of_pos hc,
    List.takeWhile_cons_of_pos hc, List.length_cons]
  have hgap : start + ((text.takeWhile Text.isBlank).length + 1) =
      start + 1 + (text.takeWhile Text.isBlank).length := by omega
  cases text.dropWhile Text.isBlank with
  | nil => rfl
  | cons d rest =>
    dsimp only
    cases Lexeme.read (d :: rest) with
    | failed width cause => simp only [Lexing.outline, hgap]
    | took width lexeme => simp only [Lexing.outline, hgap]

/-- A lexeme that is read is the first entry. -/
theorem outline_of_took (start : Nat) {text : List Char} {width : Nat} {lexeme : Lexeme}
    (h : Lexeme.read text = .took width lexeme) :
    outline start text =
      (outline (start + width) (text.drop width)).prepend [⟨start, width, lexeme⟩] := by
  have hlex : lex ([] ++ text) = .lexeme 0 width lexeme (lex (text.drop width)) :=
    lex_append_of_read (by simp) (Lexeme.not_isBlank_of_read h) h
  rw [List.nil_append] at hlex
  rw [outline, hlex]
  rfl

/-- A failure is the end of an outline. -/
theorem outline_of_failed (start : Nat) {text : List Char} {width : Nat} {cause : Cause}
    (hne : text ≠ []) (hhead : ∀ c ∈ text.head?, Text.isBlank c = false)
    (h : Lexeme.read text = .failed width cause) :
    outline start text = ⟨[], some (start + width, cause)⟩ := by
  have hlex : lex ([] ++ text) = .stuck 0 width cause :=
    lex_append_of_failed (by simp) hhead hne h
  rw [List.nil_append] at hlex
  rw [outline, hlex]
  rfl

/-! ## Reading to a rest -/

/-- Whether some entries are read off the front of a text that starts at a given offset, and what
is left then, with its offset. -/
inductive ReadsTo : Nat → List Char → List Outline.Entry → Nat → List Char → Prop where
  | done (start : Nat) (rest : List Char) : ReadsTo start rest [] start rest
  | blank {start stop : Nat} {c : Char} {text rest : List Char} {entries : List Outline.Entry}
      (hc : Text.isBlank c = true) (htail : ReadsTo (start + 1) text entries stop rest) :
      ReadsTo start (c :: text) entries stop rest
  | took {start stop width : Nat} {text rest : List Char} {lexeme : Lexeme}
      {entries : List Outline.Entry}
      (hread : Lexeme.read text = .took width lexeme)
      (htail : ReadsTo (start + width) (text.drop width) entries stop rest) :
      ReadsTo start text (⟨start, width, lexeme⟩ :: entries) stop rest

namespace ReadsTo

variable {start stop : Nat} {text rest : List Char} {entries : List Outline.Entry}

/-- What is left is the end of the text. -/
theorem exists_front (h : ReadsTo start text entries stop rest) :
    ∃ front, text = front ++ rest ∧ stop = start + front.length := by
  induction h with
  | done start rest => exact ⟨[], rfl, rfl⟩
  | @blank start stop c text rest entries hc _ ih =>
    obtain ⟨front, rfl, rfl⟩ := ih
    refine ⟨c :: front, rfl, ?_⟩
    rw [List.length_cons]
    omega
  | @took start stop width text rest lexeme entries hread _ ih =>
    obtain ⟨front, hdrop, rfl⟩ := ih
    have hwidth := Lexeme.width_le_of_read hread
    refine ⟨text.take width ++ front, ?_, ?_⟩
    · rw [List.append_assoc, ← hdrop, List.take_append_drop]
    · rw [List.length_append, List.length_take]
      omega

/-- The outline goes on with that of what is left. -/
theorem outline_eq (h : ReadsTo start text entries stop rest) :
    outline start text = (outline stop rest).prepend entries := by
  induction h with
  | done start rest => rw [Outline.prepend_nil]
  | blank hc _ ih => rw [outline_blank _ hc, ih]
  | @took start stop width text rest lexeme entries hread _ ih =>
    rw [outline_of_took start hread, ih, ← Outline.prepend_append, List.singleton_append]

/-- Entries start before what is left. -/
theorem offset_le (h : ReadsTo start text entries stop rest) : ∀ e ∈ entries, e.offset ≤ stop := by
  induction h with
  | done start rest =>
    intro e he
    cases he
  | blank hc _ ih => exact ih
  | @took start stop width text rest lexeme entries hread htail ih =>
    intro e he
    rcases List.mem_cons.mp he with rfl | he
    · obtain ⟨front, -, rfl⟩ := htail.exists_front
      show start ≤ _
      omega
    · exact ih e he

/-- The same entries are read off a longer text, if something was left, or if the text goes on with
a blank. -/
theorem append (h : ReadsTo start text entries stop rest) {more : List Char}
    (hmore : rest ≠ [] ∨ ∀ c ∈ more.head?, Text.isBlank c = true) :
    ReadsTo start (text ++ more) entries stop (rest ++ more) := by
  induction h with
  | done start rest => exact .done start _
  | blank hc _ ih => exact .blank hc (ih hmore)
  | @took start stop width text rest lexeme entries hread htail ih =>
    have hwidth := Lexeme.width_le_of_read hread
    have hdrop : (text ++ more).drop width = text.drop width ++ more :=
      List.drop_append_of_le_length hwidth
    have hread' : Lexeme.read (text ++ more) = .took width lexeme := by
      rcases hmore with hrest | hblank
      · -- something is left after this lexeme
        apply Lexeme.read_append_of_lt hread
        obtain ⟨front, hfront, -⟩ := htail.exists_front
        have hpos := List.length_pos_iff.mpr hrest
        have hlength := congrArg List.length hfront
        rw [List.length_drop, List.length_append] at hlength
        omega
      · exact Lexeme.read_append_of_isBlank hread hblank
    exact .took hread' (by rw [hdrop]; exact ih hmore)

end ReadsTo

/-- Every text is read to its end or to the first failure. -/
theorem exists_readsTo (start : Nat) (text : List Char) :
    ∃ entries stop rest, ReadsTo start text entries stop rest ∧
      (rest = [] ∨ (rest ≠ [] ∧ (∀ c ∈ rest.head?, Text.isBlank c = false) ∧
        ∃ width cause, Lexeme.read rest = .failed width cause)) := by
  -- the induction is on the length, since each step leaves some end of the text
  induction hn : text.length using Nat.strong_induction_on generalizing start text with
  | _ n ih =>
    cases text with
    | nil => exact ⟨[], start, [], .done start [], .inl rfl⟩
    | cons c text =>
      by_cases hc : Text.isBlank c = true
      · obtain ⟨entries, stop, rest, hreads, hrest⟩ :=
          ih text.length (by rw [← hn, List.length_cons]; omega) (start + 1) text rfl
        exact ⟨entries, stop, rest, .blank hc hreads, hrest⟩
      · rw [Bool.not_eq_true] at hc
        cases hread : Lexeme.read (c :: text) with
        | failed width cause =>
          refine ⟨[], start, c :: text, .done start _,
            .inr ⟨List.cons_ne_nil _ _, ?_, width, cause, hread⟩⟩
          intro d hd
          cases hd
          exact hc
        | took width lexeme =>
          have hpos := Lexeme.width_pos_of_read hread
          have hshort : ((c :: text).drop width).length < n := by
            rw [List.length_drop, ← hn, List.length_cons]
            omega
          obtain ⟨entries, stop, rest, hreads, hrest⟩ := ih _ hshort (start + width) _ rfl
          exact ⟨_, stop, rest, .took hread hreads, hrest⟩

/-- A text without a fault is read to its end. -/
theorem readsTo_of_fault?_eq_none {start : Nat} {text : List Char}
    (h : (outline start text).fault? = none) :
    ReadsTo start text (outline start text).entries (start + text.length) [] := by
  obtain ⟨entries, stop, rest, hreads, hrest⟩ := exists_readsTo start text
  have hnil : rest = [] := by
    rcases hrest with hnil | ⟨hne, hhead, width, cause, hread⟩
    · exact hnil
    · rw [hreads.outline_eq, outline_of_failed stop hne hhead hread] at h
      cases h
  subst hnil
  obtain ⟨front, hfront, hstop⟩ := hreads.exists_front
  have hlength : stop = start + text.length := by
    rw [hstop, hfront, List.append_nil]
  rw [hreads.outline_eq, outline_nil, Outline.entries_prepend, List.append_nil, ← hlength]
  exact hreads

/-- The entries and the fault of a text lie within it. -/
theorem outline_within (start : Nat) (text : List Char) :
    (∀ e ∈ (outline start text).entries, e.offset ≤ start + text.length) ∧
      ∀ n cause, (outline start text).fault? = some (n, cause) → n ≤ start + text.length := by
  obtain ⟨entries, stop, rest, hreads, hrest⟩ := exists_readsTo start text
  obtain ⟨front, rfl, rfl⟩ := hreads.exists_front
  rw [hreads.outline_eq, Outline.entries_prepend, Outline.fault?_prepend, List.length_append]
  rcases hrest with rfl | ⟨hne, hhead, width, cause, hread⟩
  · rw [outline_nil]
    refine ⟨fun e he => ?_, fun n cause h => by cases h⟩
    rw [List.append_nil] at he
    have hle := hreads.offset_le e he
    omega
  · rw [outline_of_failed _ hne hhead hread]
    refine ⟨fun e he => ?_, fun n cause' h => ?_⟩
    · rw [List.append_nil] at he
      have hle := hreads.offset_le e he
      omega
    · have hwidth := (Lexeme.fails_of_read hne hread).width_le
      cases h
      omega

/-- The same for a source. -/
theorem outline_within_source (source : String) :
    (∀ e ∈ (outline 0 source.toList).entries, e.offset ≤ source.length) ∧
      ∀ n cause, (outline 0 source.toList).fault? = some (n, cause) → n ≤ source.length := by
  have hwithin := outline_within 0 source.toList
  rw [Nat.zero_add, String.length_toList] at hwithin
  exact hwithin

/-- The outline of a text does not depend on where it starts, but for its offsets. -/
theorem outline_add (chars start : Nat) (text : List Char) :
    outline (chars + start) text = (outline start text).shift chars := by
  rw [outline, outline]
  induction lex text generalizing start with
  | finished gap => rfl
  | stuck gap width cause =>
    simp only [Lexing.outline, Outline.shift, List.map_nil, Option.map_some, Nat.add_assoc]
  | lexeme gap width head tail ih =>
    have htail := ih (start + gap + width)
    rw [show chars + (start + gap + width) = chars + start + gap + width by omega] at htail
    rw [Lexing.outline, htail, Lexing.outline, Nat.add_assoc chars start gap]
    rfl

end ScriptFront
