import ScriptFront.Proofs.Lexeme.Shape

/-!
# Reading a lexeme by its shape

The reader of lexemes takes exactly what has the shape of a lexeme:

* `exists_read`: characters that spell a lexeme are read as one wherever it may end, and the value
  depends on these characters alone;
* `spells_of_read`: what is read spells a lexeme of its kind and ends where one may, provided white
  space after it is blank. Other white space ends a number, but nothing can be read from there on
  (`read_eq_failed_of_isSpace`).
-/

namespace ScriptFront

/-! ## Literals -/

/-- The decoded text of a body does not depend on what follows the closing quote. -/
theorem LiteralBody.exists_value {body : List Char} (h : LiteralBody body) :
    ∃ value, ∀ after,
      Lexeme.literalBody (body ++ '\x22' :: after) = some (value, body.length + 1) := by
  induction h with
  | nil => exact ⟨[], fun after => rfl⟩
  | @plain c rest hq hb _ ih =>
    obtain ⟨value, hv⟩ := ih
    refine ⟨c :: value, fun after => ?_⟩
    rw [List.cons_append, Lexeme.literalBody, hv]
    · rfl
    · exact hq
    · intro d tail hc
      exact absurd hc hb
    · exact fun hc => absurd hc hb
  | escaped c _ ih =>
    obtain ⟨value, hv⟩ := ih
    refine ⟨Lexeme.unescape c :: value, fun after => ?_⟩
    rw [List.cons_append, List.cons_append, Lexeme.literalBody, hv]
    rfl

/-- A body that is read ends at the first quote that no backslash takes along. -/
theorem Lexeme.exists_body_of_literalBody {text value : List Char} {width : Nat}
    (h : literalBody text = some (value, width)) :
    ∃ body after, LiteralBody body ∧ text = body ++ '\x22' :: after ∧ width = body.length + 1 := by
  induction text using literalBody.induct generalizing value width with
  | case1 => cases h
  | case2 rest =>
    rw [literalBody, Option.some.injEq, Prod.mk.injEq] at h
    exact ⟨[], rest, .nil, rfl, h.2.symm⟩
  | case3 c rest ih =>
    rw [literalBody, Option.map_eq_some_iff] at h
    obtain ⟨⟨value', width'⟩, hread, heq⟩ := h
    obtain ⟨body, after, hbody, rfl, hwidth⟩ := ih hread
    rw [Prod.mk.injEq] at heq
    refine ⟨'\\' :: c :: body, after, .escaped c hbody, rfl, ?_⟩
    rw [← heq.2, hwidth]
    rfl
  | case4 => cases h
  | case5 c rest hq hb hb' ih =>
    rw [literalBody, Option.map_eq_some_iff] at h
    · obtain ⟨⟨value', width'⟩, hread, heq⟩ := h
      obtain ⟨body, after, hbody, rfl, hwidth⟩ := ih hread
      rw [Prod.mk.injEq] at heq
      have hc : c ≠ '\\' := by
        rintro rfl
        cases body with
        | nil => exact hb _ _ rfl rfl
        | cons d tail => exact hb _ _ rfl rfl
      refine ⟨c :: body, after, .plain hq hc hbody, rfl, ?_⟩
      rw [← heq.2, hwidth]
      rfl
    · exact hq
    · exact hb
    · exact hb'

/-! ## Numerals -/

namespace Numeral

/-- Before a digit there is no sign. -/
theorem split_of_isDigit {c : Char} (rest : List Char) (hc : c.isDigit = true) :
    split (c :: rest) = unsigned false (c :: rest) := by
  unfold split
  split
  · rename_i heq
    rw [(List.cons.inj heq).1] at hc
    exact absurd hc (by decide)
  · rfl

/-- A plain numeral is split off where it cannot be continued. -/
theorem IsPlain.split_append {n : Numeral} (h : n.IsPlain) {after : List Char}
    (hdigit : ∀ c ∈ after.head?, c.isDigit = false)
    (hpoint : n.fraction = none → ∀ c ∈ after.head?, c ≠ '.') :
    split (n.spelling ++ after) = (n, after) := by
  obtain ⟨c, rest, hc, hspelling⟩ := h.exists_cons
  have hsplit : split (n.spelling ++ after) = unsigned false (n.spelling ++ after) := by
    rw [hspelling, List.cons_append, split_of_isDigit _ hc]
  rw [hsplit]
  obtain ⟨negative, whole, fraction⟩ := n
  obtain ⟨rfl, -, hwhole, hfraction⟩ : negative = false ∧ _ := h
  unfold unsigned
  cases fraction with
  | none =>
    simp only [spelling, Bool.false_eq_true, if_false, List.nil_append, List.append_nil]
    rw [Text.takeWhile_run hwhole hdigit, Text.dropWhile_run hwhole hdigit]
    split
    · exact absurd rfl (hpoint rfl '.' rfl)
    · rfl
  | some digits =>
    have hdot : ∀ c ∈ ('.' :: (digits ++ after)).head?, c.isDigit = false := by
      intro c hc
      cases hc
      decide
    simp only [spelling, Bool.false_eq_true, if_false, List.nil_append, List.append_assoc,
      List.cons_append]
    rw [Text.takeWhile_run hwhole hdot, Text.dropWhile_run hwhole hdot]
    change ∀ c ∈ digits, c.isDigit = true at hfraction
    simp only [Text.takeWhile_run hfraction hdigit, Text.dropWhile_run hfraction hdigit]

/-- Whether a numeral is made of digits and cannot be continued by what follows it. -/
structure IsCut (n : Numeral) (after : List Char) : Prop where
  whole : ∀ c ∈ n.whole, c.isDigit = true
  fraction : ∀ c ∈ n.fraction.getD [], c.isDigit = true
  digit : ∀ c ∈ after.head?, c.isDigit = false
  point : n.fraction = none → ∀ c ∈ after.head?, c ≠ '.'
  sign : n.spelling = [] → ∀ c ∈ after.head?, c ≠ '-'

/-- An unsigned numeral is split off as far as it goes. -/
theorem isCut_unsigned {negative : Bool} {text : List Char}
    (hsign : negative = false → text.head? ≠ some '-') :
    (unsigned negative text).1.IsCut (unsigned negative text).2 := by
  have hwhole : ∀ c ∈ text.takeWhile Char.isDigit, c.isDigit = true :=
    fun c hc => List.mem_takeWhile_imp hc
  have hnext := Text.head?_dropWhile_run Char.isDigit text
  unfold unsigned
  split
  · refine ⟨hwhole, fun c hc => List.mem_takeWhile_imp hc, Text.head?_dropWhile_run _ _, ?_, ?_⟩
    · intro hnone
      cases hnone
    · intro hnil
      simp [spelling] at hnil
  · rename_i hnot
    refine ⟨hwhole, ?_, hnext, ?_, ?_⟩
    · intro c hc
      cases hc
    · rintro - c hc rfl
      obtain ⟨tail, htail⟩ := List.head?_eq_some_iff.mp hc
      exact hnot tail htail
    · intro hnil c hc
      -- nothing has been split off, so this is the first character of the text
      have hnone : text.takeWhile Char.isDigit = [] ∧ negative = false := by
        cases negative with
        | false => simpa [spelling] using hnil
        | true => simp [spelling] at hnil
      have htext := List.takeWhile_append_dropWhile (p := Char.isDigit) (l := text)
      rw [hnone.1, List.nil_append] at htext
      rw [htext] at hc
      rintro rfl
      exact hsign hnone.2 hc

/-- A numeral is split off as far as it goes. -/
theorem isCut_split (text : List Char) : (split text).1.IsCut (split text).2 := by
  unfold split
  split
  · exact isCut_unsigned (by simp)
  · rename_i hnot
    apply isCut_unsigned
    intro _ hhead
    obtain ⟨tail, htail⟩ := List.head?_eq_some_iff.mp hhead
    exact hnot tail htail

/-- The numeral that is split off before a digit is plain and cannot be continued. -/
theorem isPlain_split {c : Char} (rest : List Char) (hc : c.isDigit = true) :
    (split (c :: rest)).1.IsPlain ∧
      (∀ d ∈ (split (c :: rest)).2.head?, d.isDigit = false) ∧
      ((split (c :: rest)).1.fraction = none → ∀ d ∈ (split (c :: rest)).2.head?, d ≠ '.') := by
  have hcut := isCut_split (c :: rest)
  have hparts : (split (c :: rest)).1.negative = false ∧
      (split (c :: rest)).1.whole = (c :: rest).takeWhile Char.isDigit := by
    rw [split_of_isDigit rest hc]
    unfold unsigned
    split <;> exact ⟨rfl, rfl⟩
  have hne : (split (c :: rest)).1.whole ≠ [] := by
    rw [hparts.2, List.takeWhile_cons_of_pos hc]
    exact List.cons_ne_nil _ _
  exact ⟨⟨hparts.1, hne, hcut.whole, hcut.fraction⟩, hcut.digit, hcut.point⟩

end Numeral

/-! ## Number types -/

namespace NumberKind

/-- What the number reader knows about the type suffixes: those of one letter are looked up in
either case, those of two are a mark and a size. -/
theorem mem_typeSuffixes {suffix : List Char} {type : NumberKind}
    (h : (suffix, type) ∈ typeSuffixes) :
    (∃ c, suffix = [c] ∧ ofSuffix? c = some type ∧ Lexeme.isUnsignedMark c = false ∧
        Text.isSpace c = false ∧ Symbol.isSymbolChar c = false ∧ c ≠ '.') ∨
      ∃ mark c size, suffix = [mark, c] ∧ Lexeme.isUnsignedMark mark = true ∧ mark ≠ '.' ∧
        IntegerSize.ofSuffix? c = some size ∧ type = unsigned size := by
  simp only [typeSuffixes, List.mem_cons, Prod.mk.injEq, List.not_mem_nil, or_false] at h
  rcases h with h | h | h | h | h | h | h | h | h | h | h | h | h | h | h | h <;>
    obtain ⟨rfl, rfl⟩ := h
  iterate 10 exact Or.inl ⟨_, rfl, by decide⟩
  iterate 6 exact Or.inr ⟨_, _, _, rfl, by decide, by decide, rfl, rfl⟩

/-- A letter that becomes a small letter is that letter or the capital one. -/
theorem eq_or_eq_of_toLower {c small : Char} (capital : Char)
    (hcapital : capital.val + 32 = small.val) (h : c.toLower = small) :
    c = small ∨ c = capital := by
  unfold Char.toLower at h
  split at h
  · right
    apply Char.ext
    have hval : c.val + 32 = small.val := congrArg Char.val h
    exact (UInt32.add_left_inj 32).mp (hval.trans hcapital.symm)
  · exact Or.inl h

private theorem mem_of_lookup {α : Type} {entries : List (Char × α)} {c : Char} {a : α}
    (h : entries.lookup c = some a) : (c, a) ∈ entries := by
  obtain ⟨before, after, rfl, -⟩ := List.lookup_eq_some_iff.mp h
  exact List.mem_append_right _ List.mem_cons_self

/-- A letter that is looked up in either case is a type suffix. -/
theorem mem_typeSuffixes_of_ofSuffix? {c : Char} {type : NumberKind}
    (h : ofSuffix? c = some type) : ([c], type) ∈ typeSuffixes := by
  unfold ofSuffix? at h
  rcases Option.or_eq_some_iff.mp h with h | ⟨-, h⟩
  · have hmem := mem_of_lookup h
    simp only [floatSuffixes, List.mem_cons, Prod.mk.injEq, List.not_mem_nil, or_false] at hmem
    rcases hmem with ⟨hc, rfl⟩ | ⟨hc, rfl⟩
    · rcases eq_or_eq_of_toLower 'D' rfl hc with rfl | rfl <;> decide
    · rcases eq_or_eq_of_toLower 'F' rfl hc with rfl | rfl <;> decide
  · obtain ⟨size, hsize, rfl⟩ := Option.map_eq_some_iff.mp h
    have hmem := mem_of_lookup hsize
    simp only [IntegerSize.suffixes, List.mem_cons, Prod.mk.injEq, List.not_mem_nil,
      or_false] at hmem
    rcases hmem with ⟨hc, rfl⟩ | ⟨hc, rfl⟩ | ⟨hc, rfl⟩
    · rcases eq_or_eq_of_toLower 'I' rfl hc with rfl | rfl <;> decide
    · rcases eq_or_eq_of_toLower 'L' rfl hc with rfl | rfl <;> decide
    · rcases eq_or_eq_of_toLower 'S' rfl hc with rfl | rfl <;> decide

/-- A mark of unsigned types and the letter of a size are a type suffix. -/
theorem mem_typeSuffixes_of_mark {mark c : Char} {size : IntegerSize}
    (hmark : Lexeme.isUnsignedMark mark = true) (hsize : IntegerSize.ofSuffix? c = some size) :
    ([mark, c], unsigned size) ∈ typeSuffixes := by
  simp only [Lexeme.isUnsignedMark, Bool.or_eq_true, beq_iff_eq] at hmark
  have hmem := mem_of_lookup hsize
  simp only [IntegerSize.suffixes, List.mem_cons, Prod.mk.injEq, List.not_mem_nil,
    or_false] at hmem
  rcases hmark with rfl | rfl <;> rcases hmem with ⟨rfl, rfl⟩ | ⟨rfl, rfl⟩ | ⟨rfl, rfl⟩ <;> decide

end NumberKind

namespace Lexeme

/-- White space and symbols do not mark unsigned types. -/
theorem not_isUnsignedMark_of_ends {c : Char}
    (h : Text.isSpace c = true ∨ Symbol.isSymbolChar c = true) : isUnsignedMark c = false := by
  rw [Bool.eq_false_iff]
  intro hmark
  simp only [isUnsignedMark, Bool.or_eq_true, beq_iff_eq] at hmark
  rcases hmark with rfl | rfl <;> exact absurd h (by decide)

/-- White space, a symbol or the end leaves a numeral without a type. -/
theorem numberType_of_ends (n : Numeral) {after : List Char}
    (h : ∀ c ∈ after.head?, c ≠ '.' ∧ (Text.isSpace c = true ∨ Symbol.isSymbolChar c = true)) :
    numberType n after = .took n.spelling.length (plainNumber n) := by
  cases after with
  | nil => rfl
  | cons c rest =>
    obtain ⟨hpoint, hends⟩ := h c rfl
    have hmark := not_isUnsignedMark_of_ends hends
    rw [← Bool.or_eq_true] at hends
    simp [numberType, hpoint, hmark, hends]

/-- A suffix gives a numeral its type. An unsigned one does not if the numeral is negative. -/
theorem numberType_of_suffix {n : Numeral} {suffix : List Char} {type : NumberKind}
    (hmem : (suffix, type) ∈ NumberKind.typeSuffixes)
    (hsign : suffix.length = 2 → n.negative = false) (rest : List Char) :
    numberType n (suffix ++ rest) =
      .took (n.spelling.length + suffix.length) (typedNumber n type) := by
  rcases NumberKind.mem_typeSuffixes hmem with
    ⟨c, rfl, htype, hmark, hspace, hsymbol, hpoint⟩ |
    ⟨mark, c, size, rfl, hmark, hpoint, hsize, rfl⟩
  · simp [numberType, hpoint, hmark, hspace, hsymbol, htype]
  · simp [numberType, hpoint, hmark, hsign rfl, unsignedNumber, hsize]

/-- A numeral and its suffix are read as a number of the type that the suffix gives it. -/
theorem exists_numberType {n : Numeral} {suffix : List Char} {type : NumberKind}
    (hn : n.IsPlain) (hs : NumberKind.Suffixed n.fraction.isSome suffix type) :
    ∃ value, ∀ after,
      (suffix = [] → ∀ c ∈ after.head?, Text.isBlank c = true ∨
        (Symbol.isSymbolChar c = true ∧ c ≠ '.')) →
      numberType n (suffix ++ after) =
        .took (n.spelling ++ suffix).length ⟨.number type, value⟩ := by
  rcases hs with ⟨rfl, rfl⟩ | hmem
  · refine ⟨n.value, fun after hafter => ?_⟩
    rw [List.nil_append, List.append_nil, numberType_of_ends n]
    · rfl
    · intro c hc
      rcases hafter rfl c hc with hblank | ⟨hsymbol, hpoint⟩
      · refine ⟨?_, .inl (Text.isSpace_of_isBlank hblank)⟩
        rintro rfl
        exact absurd hblank (by decide)
      · exact ⟨hpoint, .inr hsymbol⟩
  · refine ⟨(typedNumber n type).value, fun after _ => ?_⟩
    rw [numberType_of_suffix hmem (fun _ => hn.1), List.length_append]
    rfl

/-- What is read after a numeral is a suffix that gives the number its type. White space or a
symbol stands where there is none. -/
theorem suffixed_of_numberType {n : Numeral} {rest : List Char} {width : Nat} {lexeme : Lexeme}
    (h : numberType n rest = .took width lexeme) :
    ∃ suffix after type, rest = suffix ++ after ∧ lexeme.kind = .number type ∧
      NumberKind.Suffixed n.fraction.isSome suffix type ∧
      width = (n.spelling ++ suffix).length ∧
      (suffix = [] → ∀ c ∈ after.head?, Text.isSpace c = true ∨ Symbol.isSymbolChar c = true) ∧
      (suffix = [] → n.fraction.isSome → ∀ c ∈ after.head?, c ≠ '.') := by
  unfold numberType at h
  split at h
  · simp only [Reading.took.injEq] at h
    obtain ⟨rfl, rfl⟩ := h
    exact ⟨[], [], _, rfl, rfl, Or.inl ⟨rfl, rfl⟩, by rw [List.append_nil], by simp, by simp⟩
  · rename_i c rest
    dsimp only at h
    split at h
    · cases h
    · rename_i hpoint
      split at h
      · rename_i hmark
        split at h
        · cases h
        · unfold unsignedNumber at h
          split at h
          · cases h
          · rename_i letter rest
            split at h
            · rename_i size hsize
              simp only [Reading.took.injEq] at h
              obtain ⟨rfl, rfl⟩ := h
              refine ⟨[c, letter], rest, _, rfl, rfl,
                Or.inr (NumberKind.mem_typeSuffixes_of_mark hmark hsize), ?_, by simp, by simp⟩
              rw [List.length_append]
              rfl
            · cases h
      · split at h
        · rename_i hends
          simp only [Reading.took.injEq] at h
          obtain ⟨rfl, rfl⟩ := h
          refine ⟨[], c :: rest, _, rfl, rfl, Or.inl ⟨rfl, rfl⟩, by rw [List.append_nil], ?_, ?_⟩
          · rintro - d hd
            cases hd
            simpa using hends
          · rintro - hf d hd
            cases hd
            simpa [hf] using hpoint
        · split at h
          · rename_i type htype
            simp only [Reading.took.injEq] at h
            obtain ⟨rfl, rfl⟩ := h
            refine ⟨[c], rest, _, rfl, rfl,
              Or.inr (NumberKind.mem_typeSuffixes_of_ofSuffix? htype), ?_, by simp, by simp⟩
            rw [List.length_append]
            rfl
          · cases h

/-- What comes after a numeral with its suffix cannot be taken for a part of the numeral. -/
theorem head?_of_suffixed {pointed : Bool} {suffix after : List Char} {type : NumberKind}
    (hs : NumberKind.Suffixed pointed suffix type)
    (hafter : suffix = [] → ∀ c ∈ after.head?, Text.isBlank c = true ∨
      (Symbol.isSymbolChar c = true ∧ c ≠ '.')) :
    ∀ c ∈ (suffix ++ after).head?, c.isDigit = false ∧ c ≠ '.' := by
  intro c hc
  rcases hs with ⟨rfl, -⟩ | hmem
  · rcases hafter rfl c hc with hblank | ⟨hsymbol, hpoint⟩
    · simp only [Text.isBlank, Bool.or_eq_true, beq_iff_eq] at hblank
      rcases hblank with (rfl | rfl) | rfl <;> decide
    · obtain ⟨s, hspelling⟩ := Symbol.exists_of_isSymbolChar hsymbol
      have hmem : c ∈ s.spelling := by rw [hspelling]; exact List.mem_singleton.mpr rfl
      exact ⟨(Symbol.mem_spelling hmem).2.1, hpoint⟩
  · obtain ⟨hne, halpha⟩ := NumberKind.isAlpha_of_mem_typeSuffixes hmem
    obtain ⟨d, rest, rfl⟩ := List.exists_cons_of_ne_nil hne
    cases hc
    have hletter := halpha c List.mem_cons_self
    constructor
    · rw [Bool.eq_false_iff]
      intro hdigit
      rw [Text.not_isAlpha_of_isDigit hdigit] at hletter
      cases hletter
    · rintro rfl
      exact absurd hletter (by decide)

/-- A number that is read is a plain numeral with a suffix that gives it its type. -/
theorem spells_of_number {c : Char} {rest : List Char} {width : Nat} {lexeme : Lexeme}
    (hc : c.isDigit = true) (h : number (c :: rest) = .took width lexeme) :
    ∃ spelling after, c :: rest = spelling ++ after ∧ width = spelling.length ∧
      lexeme.kind.Spells spelling ∧
      ((∀ c ∈ after.head?, Text.isSpace c = true → Text.isBlank c = true) →
        lexeme.kind.EndsBefore spelling after) := by
  have htext := Numeral.split_spelling (c :: rest)
  obtain ⟨hplain, -, hpoint⟩ := Numeral.isPlain_split rest hc
  rw [number] at h
  obtain ⟨suffix, after, type, hrest, hkind, hs, hwidth, hends, hsecond⟩ := suffixed_of_numberType h
  refine ⟨(Numeral.split (c :: rest)).1.spelling ++ suffix, after, ?_, hwidth, ?_, ?_⟩
  · rw [List.append_assoc, ← hrest, htext]
  · rw [hkind]
    exact ⟨_, suffix, hplain, hs, rfl⟩
  · intro hspace
    rw [hkind]
    rintro ⟨n, hn, hbare⟩ d hd
    -- a bare numeral has no suffix, so what follows the numeral is what follows the number
    have hnil : suffix = [] := hn.suffix_eq_nil hs hbare
    rw [hnil, List.nil_append] at hrest
    rcases hends hnil d hd with hd' | hd'
    · exact Or.inl (hspace d hd hd')
    · refine Or.inr ⟨hd', ?_⟩
      cases hf : (Numeral.split (c :: rest)).1.fraction with
      | none => exact hpoint hf d (by rw [hrest]; exact hd)
      | some digits => exact hsecond hnil (by rw [hf]; rfl) d hd

/-! ## Lexemes of any kind -/

/-- A digit starts a number. -/
theorem read_of_isDigit {c : Char} {rest : List Char} (hc : c.isDigit = true) :
    read (c :: rest) = number (c :: rest) := by
  have hquote : c ≠ '\x22' := by
    rintro rfl
    exact absurd hc (by decide)
  rw [read, if_neg hquote, Text.not_isAlpha_of_isDigit hc, if_neg Bool.false_ne_true,
    Symbol.longest?_eq_none (Or.inr (Or.inl hc))]
  exact if_pos hc

/-- After a plain numeral that cannot be continued, reading goes on with the type. -/
theorem read_numeral {n : Numeral} {after : List Char} (hn : n.IsPlain)
    (hdigit : ∀ c ∈ after.head?, c.isDigit = false)
    (hpoint : n.fraction = none → ∀ c ∈ after.head?, c ≠ '.') :
    read (n.spelling ++ after) = numberType n after := by
  have hsplit : Numeral.split (n.spelling ++ after) = (n, after) := hn.split_append hdigit hpoint
  obtain ⟨c, rest, hc, hspelling⟩ := hn.exists_cons
  have hread : read (n.spelling ++ after) = number (n.spelling ++ after) := by
    rw [hspelling, List.cons_append]
    exact read_of_isDigit hc
  rw [hread, number, hsplit]

/-- A word is read up to where no letter follows, and its value is its spelling. -/
theorem read_word {text after : List Char} (h : Kind.word.Spells text)
    (hafter : Kind.word.EndsBefore text after) :
    read (text ++ after) = .took text.length ⟨.word, .text (String.ofList text)⟩ := by
  obtain ⟨hne, halpha⟩ := h
  obtain ⟨c, rest, rfl⟩ := List.exists_cons_of_ne_nil hne
  have hc := halpha c List.mem_cons_self
  have hquote : c ≠ '\x22' := by
    rintro rfl
    exact absurd hc (by decide)
  rw [List.cons_append, read, if_neg hquote, if_pos hc, word, ← List.cons_append,
    Text.takeWhile_run halpha hafter]

/-- A symbol is read where it is not continued to another one, and its value is its spelling. -/
theorem read_symbol {s : Symbol} {after : List Char}
    (hafter : (Kind.symbol s).EndsBefore s.spelling after) :
    read (s.spelling ++ after) = .took s.spelling.length (ofSymbol s) := by
  have hlongest : Symbol.longest? (s.spelling ++ after) = some s :=
    Symbol.longest?_eq_some_iff.mpr ⟨List.prefix_append _ _, Symbol.isLongest_iff.mpr hafter⟩
  obtain ⟨c, rest, hs⟩ := List.exists_cons_of_ne_nil
    (List.ne_nil_of_length_pos s.spelling_length_pos)
  have hmem : c ∈ s.spelling := by rw [hs]; exact List.mem_cons_self
  obtain ⟨halpha, -, hquote, -⟩ := Symbol.mem_spelling hmem
  rw [hs, List.cons_append] at hlongest ⊢
  rw [read, if_neg hquote, halpha, if_neg Bool.false_ne_true, hlongest, ← hs]

/-- Characters that spell a lexeme are read as one wherever it may end. The value depends on these
characters alone. -/
theorem exists_read {k : Kind} {text : List Char} (h : k.Spells text) :
    ∃ value, ∀ after, k.EndsBefore text after →
      read (text ++ after) = .took text.length ⟨k, value⟩ := by
  cases k with
  | word => exact ⟨_, fun after hafter => read_word h hafter⟩
  | symbol s =>
    obtain rfl : text = s.spelling := h
    exact ⟨_, fun after hafter => read_symbol hafter⟩
  | literal =>
    obtain ⟨body, hbody, rfl⟩ := h
    obtain ⟨value, hvalue⟩ := hbody.exists_value
    refine ⟨.text (String.ofList value), fun after _ => ?_⟩
    rw [List.cons_append, List.append_assoc, List.singleton_append, read, if_pos rfl, literal,
      hvalue]
    simp
  | number type =>
    obtain ⟨n, suffix, hn, hs, rfl⟩ := h
    obtain ⟨value, hvalue⟩ := exists_numberType hn hs
    refine ⟨value, fun after hafter => ?_⟩
    have hends : suffix = [] → ∀ c ∈ after.head?, Text.isBlank c = true ∨
        (Symbol.isSymbolChar c = true ∧ c ≠ '.') := by
      rintro rfl
      exact hafter ⟨n, hn, List.append_nil _⟩
    -- neither a suffix nor what may follow a bare numeral can be taken for a part of the numeral
    have hnext : ∀ c ∈ (suffix ++ after).head?, c.isDigit = false ∧ c ≠ '.' :=
      head?_of_suffixed hs hends
    rw [List.append_assoc,
      read_numeral hn (fun c hc => (hnext c hc).1) (fun _ c hc => (hnext c hc).2)]
    exact hvalue after hends

/-- What is read spells a lexeme of its kind and ends where one may, if white space after it is
blank. -/
theorem spells_of_read {text : List Char} {width : Nat} {lexeme : Lexeme}
    (h : read text = .took width lexeme) :
    ∃ spelling after, text = spelling ++ after ∧ width = spelling.length ∧
      lexeme.kind.Spells spelling ∧
      ((∀ c ∈ after.head?, Text.isSpace c = true → Text.isBlank c = true) →
        lexeme.kind.EndsBefore spelling after) := by
  cases text with
  | nil => cases h
  | cons c rest =>
    rw [read] at h
    split at h
    · -- a literal
      rename_i hquote
      rw [literal] at h
      split at h
      · rename_i value bodyWidth hbody
        obtain ⟨body, after, hb, rfl, rfl⟩ := exists_body_of_literalBody hbody
        simp only [Reading.took.injEq] at h
        obtain ⟨rfl, rfl⟩ := h
        refine ⟨'\x22' :: (body ++ ['\x22']), after, ?_, ?_, ⟨body, hb, rfl⟩, fun _ => trivial⟩
        · rw [hquote, List.cons_append, List.append_assoc, List.singleton_append]
        · rw [List.length_cons, List.length_append, List.length_singleton]
      · cases h
    · split at h
      · -- a word
        rename_i halpha
        rw [word] at h
        simp only [Reading.took.injEq] at h
        obtain ⟨rfl, rfl⟩ := h
        refine ⟨(c :: rest).takeWhile Char.isAlpha, (c :: rest).dropWhile Char.isAlpha,
          List.takeWhile_append_dropWhile.symm, rfl, ⟨?_, fun d hd => List.mem_takeWhile_imp hd⟩,
          fun _ => Text.head?_dropWhile_run _ _⟩
        rw [List.takeWhile_cons_of_pos halpha]
        exact List.cons_ne_nil _ _
      · split at h
        · -- a symbol
          rename_i s hlongest
          simp only [Reading.took.injEq] at h
          obtain ⟨rfl, rfl⟩ := h
          obtain ⟨⟨after, hafter⟩, hmax⟩ := Symbol.longest?_eq_some_iff.mp hlongest
          rw [← hafter] at hmax
          exact ⟨s.spelling, after, hafter.symm, rfl, rfl, fun _ => Symbol.isLongest_iff.mp hmax⟩
        · split at h
          · rename_i hdigit
            exact spells_of_number hdigit h
          · cases h

/-- Nothing can be read where white space stands. -/
theorem read_eq_failed_of_isSpace {c : Char} {rest : List Char} (hc : Text.isSpace c = true) :
    read (c :: rest) = .failed 0 (.unexpectedCharacter c) := by
  have hclass := Text.classes_of_isSpace hc
  rw [read, if_neg hclass.1, hclass.2.1, if_neg Bool.false_ne_true,
    Symbol.longest?_eq_none (Or.inr (Or.inr (Or.inr hc))), hclass.2.2]
  rfl

end Lexeme

end ScriptFront
