import ScriptFront.Proofs.Lexing.Outline

/-!
# Sources that go on

A source that cannot be tokenized has ended too early, or it is wrong whatever comes after it. Which
of the two it is can be told from the error alone:

* `StuckAt.append`: a failure that is not premature is met at the same place in any longer text;
* `StuckAt.exists_complete`: a text with a premature failure goes on to one without failure;
* `tokenize_extension`: so the premature errors are those that more text can mend, and any other
  error is reported again for every longer source.
-/

namespace ScriptFront

/-- Whether an error says that its source ended too early: inside a literal, before the type of an
unsigned number, or after an ampersand or a bar, which are symbols only in pairs. -/
def LexError.IsPremature (e : LexError) (source : String) : Prop :=
  e.kind = some .unterminatedString ∨ e.kind = some .unexpectedEnd ∨
    (e.kind = some .unexpectedCharacter ∧ e.offset = (source.length : Int) - 1 ∧
      (source.toList[e.offset.toNat]? = some '&' ∨ source.toList[e.offset.toNat]? = some '|'))

/-- Whether reading a text gets stuck for a cause: lexemes are read up to a rest that starts at
`stop`, and `width` characters further on the next one fails. -/
structure StuckAt (text : List Char) (stop : Nat) (rest : List Char) (width : Nat)
    (cause : Cause) : Prop where
  reads : ∃ entries, ReadsTo 0 text entries stop rest
  ne_nil : rest ≠ []
  head : ∀ c ∈ rest.head?, Text.isBlank c = false
  failed : Lexeme.read rest = .failed width cause

namespace StuckAt

variable {text rest : List Char} {stop width : Nat} {cause : Cause}

theorem fault?_eq (h : StuckAt text stop rest width cause) :
    (outline 0 text).fault? = some (stop + width, cause) := by
  obtain ⟨entries, hreads⟩ := h.reads
  rw [hreads.outline_eq, outline_of_failed stop h.ne_nil h.head h.failed]
  rfl

/-- A text with a fault gets stuck there. -/
theorem exists_of_fault? {n : Nat} (h : (outline 0 text).fault? = some (n, cause)) :
    ∃ stop rest width, StuckAt text stop rest width cause ∧ n = stop + width := by
  obtain ⟨entries, stop, rest, hreads, hrest⟩ := exists_readsTo 0 text
  rcases hrest with rfl | ⟨hne, hhead, width, other, hread⟩
  · rw [hreads.outline_eq, outline_nil] at h
    cases h
  · have hstuck : StuckAt text stop rest width other := ⟨⟨entries, hreads⟩, hne, hhead, hread⟩
    rw [hstuck.fault?_eq] at h
    cases h
    exact ⟨stop, rest, width, hstuck, rfl⟩

/-- The rest is what stands at its offset. -/
theorem drop_eq (h : StuckAt text stop rest width cause) :
    text.drop stop = rest ∧ text.length = stop + rest.length := by
  obtain ⟨entries, hreads⟩ := h.reads
  obtain ⟨front, rfl, rfl⟩ := hreads.exists_front
  rw [Nat.zero_add, List.drop_left, List.length_append]
  exact ⟨rfl, rfl⟩

/-- A failure that is not premature is met at the same place if the text goes on. -/
theorem append (h : StuckAt text stop rest width cause) (hcause : ¬ cause.IsPremature rest)
    (more : List Char) : StuckAt (text ++ more) stop (rest ++ more) width cause where
  reads := by
    obtain ⟨entries, hreads⟩ := h.reads
    exact ⟨entries, hreads.append (.inl h.ne_nil)⟩
  ne_nil := List.append_ne_nil_of_left_ne_nil h.ne_nil more
  head := by
    obtain ⟨d, tail, hrest⟩ := List.exists_cons_of_ne_nil h.ne_nil
    intro c hc
    apply h.head
    rw [hrest, List.cons_append, List.head?_cons] at hc
    rw [hrest, List.head?_cons]
    exact hc
  failed := Lexeme.read_append_of_failed h.ne_nil h.failed hcause more

/-- A text with a premature failure goes on to a text without failure. -/
theorem exists_complete (h : StuckAt text stop rest width cause)
    (hcause : cause.IsPremature rest) : ∃ more, (outline 0 (text ++ more)).fault? = none := by
  obtain ⟨entries, hreads⟩ := h.reads
  obtain ⟨more, lexeme, hread⟩ := Lexeme.exists_read_append h.ne_nil h.failed hcause
  refine ⟨more, ?_⟩
  -- the lexemes before it are read as they were, and the finished one is the last
  rw [(hreads.append (.inl h.ne_nil)).outline_eq, outline_of_took stop hread, List.drop_length,
    outline_nil]
  rfl

/-- Whether a failure is premature shows in the kind and the offset of its error. -/
theorem isPremature_iff {source : String} (h : StuckAt source.toList stop rest width cause)
    {e : LexError} (hkind : e.kind = cause.kind) (hoffset : e.offset = ↑(stop + width)) :
    e.IsPremature source ↔ cause.IsPremature rest := by
  obtain ⟨hdrop, hlength⟩ := h.drop_eq
  rw [String.length_toList] at hlength
  rw [LexError.IsPremature, hkind, hoffset, Int.toNat_natCast]
  cases Lexeme.fails_of_read h.ne_nil h.failed with
  | literal hrest => simp [Cause.kind, Cause.IsPremature]
  | point rest hn hpoint => simp [Cause.kind, Cause.IsPremature]
  | noSize hn hmark => simp [Cause.kind, Cause.IsPremature]
  | size rest hn hmark hsize => simp [Cause.kind, Cause.IsPremature]
  | type rest hn hdigit hmark hspace hsymbol htype => simp [Cause.kind, Cause.IsPremature]
  | @character c tail hquote halpha hdigit hsymbol =>
    have hget : source.toList[stop]? = some c := by
      rw [← List.head?_drop, hdrop, List.head?_cons]
    have hlast : ((stop : Nat) : Int) = (source.length : Int) - 1 ↔ tail = [] := by
      rw [hlength, List.length_cons, ← List.length_eq_zero_iff]
      omega
    have hpair : (c :: tail = ['&'] ∨ c :: tail = ['|']) ↔ tail = [] ∧ (c = '&' ∨ c = '|') := by
      rw [List.cons.injEq, List.cons.injEq, ← or_and_right, and_comm]
    rw [Nat.add_zero, hget, hlast, Cause.IsPremature, hpair]
    simp [Cause.kind]

end StuckAt

/-- The error at a place of a source is that of the same place in a longer source. -/
theorem TextCursor.error_append {source : String} {n : Nat} (hn : n ≤ source.length)
    (more : String) (margin : Int) (cause : Cause) :
    ((start (source ++ more) margin).move n).error cause =
      { ((start source margin).move n).error cause with source := source ++ more } := by
  rw [error, error, place_move_append hn, source_move, margin_move, margin_move]
  rfl

/-- An error is reported where the source gets stuck. -/
theorem exists_stuckAt_of_tokenize {source : String} {margin : Int} {e : LexError}
    (h : tokenize source margin = .error (.reported e)) :
    ∃ stop rest width cause, StuckAt source.toList stop rest width cause ∧
      e.isStatable = true ∧
      e = ((TextCursor.start source margin).move (stop + width)).error cause := by
  obtain ⟨n, cause, hfault, hfailure⟩ := tokenize_eq_error_iff.mp h
  obtain ⟨stop, rest, width, hstuck, rfl⟩ := StuckAt.exists_of_fault? hfault
  obtain ⟨hstatable, rfl⟩ := LexError.failure_eq_reported_iff.mp hfailure.symm
  exact ⟨stop, rest, width, cause, hstuck, hstatable, rfl⟩

/-- If an error is reported for a source, then some longer source is tokenized if and only if the
error is premature; and if it is not, the same error is reported for every longer source. -/
theorem tokenize_extension {source : String} {margin : Int} {e : LexError}
    (h : tokenize source margin = .error (.reported e)) :
    ((∃ more tokens, tokenize (source ++ more) margin = .ok tokens) ↔ e.IsPremature source) ∧
      (¬ e.IsPremature source → ∀ more, tokenize (source ++ more) margin =
        .error (.reported { e with source := source ++ more })) := by
  obtain ⟨stop, rest, width, cause, hstuck, hstatable, heq⟩ := exists_stuckAt_of_tokenize h
  have hwithin := (outline_within_source source).2 _ _ hstuck.fault?_eq
  have hoffset : e.offset = ↑(stop + width) := by
    rw [heq]
    show ((TextCursor.move (stop + width) _).place.offset : Int) = _
    rw [TextCursor.place_move_start source margin hwithin, Place.after, List.length_take,
      String.length_toList, Nat.min_eq_left hwithin]
  have hpremature : e.IsPremature source ↔ cause.IsPremature rest :=
    hstuck.isPremature_iff (by rw [heq]; rfl) hoffset
  have hfinal : ¬ e.IsPremature source → ∀ more, tokenize (source ++ more) margin =
      .error (.reported { e with source := source ++ more }) := by
    intro hcause more
    have hstuck' := hstuck.append (fun hc => hcause (hpremature.mpr hc)) more.toList
    rw [tokenize_eq, String.toList_append, hstuck'.fault?_eq]
    dsimp only
    rw [TextCursor.error_append hwithin, ← heq]
    exact congrArg _ (LexError.failure_eq_reported_iff.mpr ⟨hstatable, rfl⟩)
  refine ⟨⟨?_, ?_⟩, hfinal⟩
  · rintro ⟨more, tokens, hok⟩
    by_contra hcause
    rw [hfinal hcause more] at hok
    cases hok
  · intro hcause
    obtain ⟨more, hcomplete⟩ := hstuck.exists_complete (hpremature.mp hcause)
    refine ⟨String.ofList more, _, tokenize_eq_ok_iff.mpr ⟨?_, rfl⟩⟩
    rw [String.toList_append, String.toList_ofList]
    exact hcomplete

/-- A source that ends after an ampersand is mended by another one. After a second decimal point no
text helps. -/
theorem tokenize_extension_ampersand_point :
    (tokenize "x &" 3 = .error (.reported ⟨"unexpected character '&'", some .unexpectedCharacter,
        1, 5, 2, "x &", 3⟩) ∧
      ∃ more tokens, tokenize ("x &" ++ more) 3 = .ok tokens) ∧
    (tokenize "x\n1.5." 3 = .error (.reported ⟨"unexpected second decimal point",
        some .doubleDecimalPoint, 2, 6, 5, "x\n1.5.", 3⟩) ∧
      ∀ more, tokenize ("x\n1.5." ++ more) 3 = .error (.reported
        ⟨"unexpected second decimal point", some .doubleDecimalPoint, 2, 6, 5,
          "x\n1.5." ++ more, 3⟩)) := by
  have hpair : tokenize "x &" 3 = .error (.reported ⟨"unexpected character '&'",
      some .unexpectedCharacter, 1, 5, 2, "x &", 3⟩) := by decide +kernel
  have hpoint : tokenize "x\n1.5." 3 = .error (.reported ⟨"unexpected second decimal point",
      some .doubleDecimalPoint, 2, 6, 5, "x\n1.5.", 3⟩) := by decide +kernel
  refine ⟨⟨hpair, (tokenize_extension hpair).1.mpr ?_⟩, hpoint, (tokenize_extension hpoint).2 ?_⟩
  · exact .inr (.inr ⟨rfl, rfl, .inl rfl⟩)
  · rintro (h | h | ⟨h, -⟩) <;> cases h

end ScriptFront
