import Mathlib.Data.List.TakeWhile
import ScriptFront.Lexeme.Lexing

/-!
# The shape of lexemes

What lexemes look like, said without any reader:

* `LiteralBody`, `Numeral.IsPlain` and `NumberKind.Suffixed`, the parts of literals and numbers;
* `Kind.Spells`, whether some characters are a lexeme of a kind;
* `Kind.EndsBefore`, whether a lexeme may end in front of the characters that follow it.

The lemmas tell kinds apart by their characters: no character of a symbol is a letter, a digit, a
quote or white space, no character of a plain numeral is a letter, and every type suffix is made of
letters.
-/

namespace ScriptFront

/-! ## Runs of characters -/

namespace Text

/-- A run ends where the next character is not of its class. -/
theorem takeWhile_run {p : Char → Bool} {run after : List Char} (hrun : ∀ c ∈ run, p c = true)
    (hafter : ∀ c ∈ after.head?, p c = false) : (run ++ after).takeWhile p = run := by
  rw [List.takeWhile_append_of_pos hrun]
  cases after with
  | nil => simp
  | cons c rest =>
    have hc : p c = false := hafter c rfl
    rw [List.takeWhile_cons_of_neg (by simp [hc]), List.append_nil]

theorem dropWhile_run {p : Char → Bool} {run after : List Char} (hrun : ∀ c ∈ run, p c = true)
    (hafter : ∀ c ∈ after.head?, p c = false) : (run ++ after).dropWhile p = after := by
  rw [List.dropWhile_append_of_pos hrun]
  cases after with
  | nil => rfl
  | cons c rest =>
    have hc : p c = false := hafter c rfl
    rw [List.dropWhile_cons_of_neg (by simp [hc])]

/-- What is left after a run does not start with a character of its class. -/
theorem head?_dropWhile_run (p : Char → Bool) (text : List Char) :
    ∀ c ∈ (text.dropWhile p).head?, p c = false := by
  intro c hc
  have h := List.head?_dropWhile_not p text
  rw [Option.mem_def.mp hc] at h
  simpa using h

theorem isDigit_iff {c : Char} : c.isDigit = true ↔ 48 ≤ c.toNat ∧ c.toNat ≤ 57 := by
  show (decide (48 ≤ c.val) && decide (c.val ≤ 57)) = true ↔ _
  simp only [Bool.and_eq_true, decide_eq_true_eq, UInt32.le_iff_toNat_le]
  exact Iff.rfl

theorem isAlpha_iff {c : Char} :
    c.isAlpha = true ↔ 65 ≤ c.toNat ∧ c.toNat ≤ 90 ∨ 97 ≤ c.toNat ∧ c.toNat ≤ 122 := by
  show (decide (65 ≤ c.val ∧ c.val ≤ 90) || (decide (97 ≤ c.val) && decide (c.val ≤ 122))) = true
    ↔ _
  simp only [Bool.or_eq_true, Bool.and_eq_true, decide_eq_true_eq, UInt32.le_iff_toNat_le]
  exact Iff.rfl

theorem not_isAlpha_of_isDigit {c : Char} (h : c.isDigit = true) : c.isAlpha = false := by
  rw [Bool.eq_false_iff, ne_eq, isAlpha_iff]
  rw [isDigit_iff] at h
  omega

/-- White space belongs to no lexeme but literals, and does not start these. -/
theorem classes_of_isSpace {c : Char} (h : isSpace c = true) :
    c ≠ '\x22' ∧ c.isAlpha = false ∧ c.isDigit = false := by
  simp only [isSpace, wideSpaces, Ranges.has, List.any_cons, List.any_nil, Bool.or_false,
    Bool.or_eq_true, Bool.and_eq_true, decide_eq_true_eq] at h
  refine ⟨?_, ?_, ?_⟩
  · rintro rfl
    exact absurd h (by decide)
  · rw [Bool.eq_false_iff, ne_eq, isAlpha_iff]
    omega
  · rw [Bool.eq_false_iff, ne_eq, isDigit_iff]
    omega

end Text

/-! ## Literals -/

/-- The inside of a literal: characters other than quote and backslash, and backslashes that each
take the character after them along. -/
inductive LiteralBody : List Char → Prop where
  | nil : LiteralBody []
  | plain {c : Char} {rest : List Char} (hq : c ≠ '\x22') (hb : c ≠ '\\')
      (hr : LiteralBody rest) : LiteralBody (c :: rest)
  | escaped (c : Char) {rest : List Char} (hr : LiteralBody rest) : LiteralBody ('\\' :: c :: rest)

/-! ## Numbers -/

/-- A numeral without a sign that has digits before its point. There may be none after it. -/
def Numeral.IsPlain (n : Numeral) : Prop :=
  n.negative = false ∧ n.whole ≠ [] ∧ (∀ c ∈ n.whole, c.isDigit = true) ∧
    ∀ c ∈ n.fraction.getD [], c.isDigit = true

namespace NumberKind

/-- The suffixes that give a number its type: one letter in either case, or the mark of unsigned
types in either case and a small letter. -/
def typeSuffixes : List (List Char × NumberKind) :=
  [(['d'], double), (['D'], double), (['f'], float), (['F'], float),
   (['i'], signed .int), (['I'], signed .int), (['s'], signed .short), (['S'], signed .short),
   (['l'], signed .long), (['L'], signed .long),
   (['u', 'i'], unsigned .int), (['U', 'i'], unsigned .int), (['u', 's'], unsigned .short),
   (['U', 's'], unsigned .short), (['u', 'l'], unsigned .long), (['U', 'l'], unsigned .long)]

/-- Whether a number with this suffix has this type. A number without suffix is an integer, or a
floating number if its numeral has a point. -/
def Suffixed (pointed : Bool) (suffix : List Char) (type : NumberKind) : Prop :=
  (suffix = [] ∧ type = if pointed then float else signed .int) ∨ (suffix, type) ∈ typeSuffixes

/-- Type suffixes are made of letters. -/
theorem isAlpha_of_mem_typeSuffixes {suffix : List Char} {type : NumberKind}
    (h : (suffix, type) ∈ typeSuffixes) : suffix ≠ [] ∧ ∀ c ∈ suffix, c.isAlpha = true := by
  have hall : typeSuffixes.all (fun entry => entry.1 ≠ [] ∧ entry.1.all Char.isAlpha) = true := by
    decide
  have hentry := List.all_eq_true.mp hall _ h
  rw [decide_eq_true_eq] at hentry
  exact ⟨hentry.1, List.all_eq_true.mp hentry.2⟩

end NumberKind

namespace Numeral

/-- The characters of a plain numeral are digits and points. -/
theorem IsPlain.mem_spelling {n : Numeral} (h : n.IsPlain) {c : Char} (hc : c ∈ n.spelling) :
    c.isDigit = true ∨ c = '.' := by
  obtain ⟨hsign, -, hwhole, hfraction⟩ := h
  unfold spelling at hc
  rw [hsign, if_neg Bool.false_ne_true, List.nil_append, List.mem_append] at hc
  rcases hc with hc | hc
  · exact Or.inl (hwhole c hc)
  · cases hf : n.fraction with
    | none => simp [hf] at hc
    | some digits =>
      rw [hf, Option.getD_some] at hfraction
      rw [hf, List.mem_cons] at hc
      rcases hc with rfl | hc
      · exact Or.inr rfl
      · exact Or.inl (hfraction c hc)

theorem IsPlain.not_isAlpha {n : Numeral} (h : n.IsPlain) {c : Char} (hc : c ∈ n.spelling) :
    c.isAlpha = false := by
  rcases h.mem_spelling hc with hd | rfl
  · exact Text.not_isAlpha_of_isDigit hd
  · decide

/-- A plain numeral starts with a digit. -/
theorem IsPlain.exists_cons {n : Numeral} (h : n.IsPlain) :
    ∃ c rest, c.isDigit = true ∧ n.spelling = c :: rest := by
  obtain ⟨hsign, hne, hwhole, -⟩ := h
  obtain ⟨c, digits, hw⟩ := List.exists_cons_of_ne_nil hne
  refine ⟨c, n.spelling.tail, hwhole c (by rw [hw]; exact List.mem_cons_self), ?_⟩
  unfold spelling
  rw [hsign, hw]
  rfl

/-- A number is a bare numeral only if its suffix is empty. -/
theorem IsPlain.suffix_eq_nil {n n' : Numeral} {suffix : List Char} (h' : n'.IsPlain)
    {pointed : Bool} {type : NumberKind} (hs : NumberKind.Suffixed pointed suffix type)
    (heq : n.spelling ++ suffix = n'.spelling) : suffix = [] := by
  rcases hs with ⟨hnil, -⟩ | hmem
  · exact hnil
  · obtain ⟨hne, halpha⟩ := NumberKind.isAlpha_of_mem_typeSuffixes hmem
    obtain ⟨c, rest, rfl⟩ := List.exists_cons_of_ne_nil hne
    have hc : c ∈ n'.spelling := by
      rw [← heq]
      exact List.mem_append_right _ List.mem_cons_self
    have hletter := halpha c List.mem_cons_self
    rw [h'.not_isAlpha hc] at hletter
    cases hletter

end Numeral

/-! ## Symbols -/

namespace Symbol

/-- No character of a symbol can start or continue a lexeme of another kind, or stand in a gap. -/
theorem mem_spelling {s : Symbol} {c : Char} (h : c ∈ s.spelling) :
    c.isAlpha = false ∧ c.isDigit = false ∧ c ≠ '\x22' ∧ Text.isSpace c = false := by
  have hall : s.spelling.all (fun c => c.isAlpha = false ∧ c.isDigit = false ∧ c ≠ '\x22' ∧
      Text.isSpace c = false) = true := by
    cases s <;> decide
  exact of_decide_eq_true (List.all_eq_true.mp hall c h)

theorem maxLength_eq : maxLength = 2 := by
  decide

theorem spelling_length_le (s : Symbol) : s.spelling.length ≤ maxLength := by
  cases s <;> decide

theorem spelling_injective {s t : Symbol} (h : s.spelling = t.spelling) : s = t := by
  have hs := ofSpelling?_spelling s
  rw [h, ofSpelling?_spelling t] at hs
  exact (Option.some.inj hs).symm

/-- Symbols that a text starts with are told apart by their lengths. -/
theorem eq_of_isPrefix {text : List Char} {s t : Symbol} (hs : s.spelling <+: text)
    (ht : t.spelling <+: text) (h : s.spelling.length = t.spelling.length) : s = t := by
  rw [List.prefix_iff_eq_take] at hs ht
  exact spelling_injective (by rw [hs, ht, h])

/-- Of the symbols that the text starts with and that are not too long, the longest one is found. -/
theorem longestWithin?_eq_some_iff {text : List Char} {length : Nat} {s : Symbol} :
    longestWithin? text length = some s ↔ s.spelling <+: text ∧ s.spelling.length ≤ length ∧
      ∀ t : Symbol, t.spelling <+: text → t.spelling.length ≤ length →
        t.spelling.length ≤ s.spelling.length := by
  induction length with
  | zero =>
    have hs := s.spelling_length_pos
    constructor
    · rintro ⟨⟩
    · rintro ⟨-, hle, -⟩
      omega
  | succ length ih =>
    rw [longestWithin?, Option.orElse_eq_orElse, Option.orElse_eq_or]
    cases hfound : ofSpelling? (text.take (length + 1)) with
    | some found =>
      -- no symbol of that length or less is longer than what was found
      have hspelling := spelling_of_ofSpelling? hfound
      have hstart : found.spelling <+: text := hspelling ▸ List.take_prefix _ _
      have hlength : found.spelling.length = min (length + 1) text.length := by
        rw [hspelling, List.length_take]
      rw [Option.some_or, Option.some.injEq]
      constructor
      · rintro rfl
        refine ⟨hstart, by omega, fun t ht hle => ?_⟩
        have htext := ht.length_le
        omega
      · rintro ⟨hs, hle, hmax⟩
        have htext := hs.length_le
        have hfoundLe := hmax found hstart (by omega)
        exact eq_of_isPrefix hstart hs (by omega)
    | none =>
      -- no symbol has that length
      have hshort : ∀ t : Symbol, t.spelling <+: text → t.spelling.length ≤ length + 1 →
          t.spelling.length ≤ length := by
        intro t ht hle
        by_contra hlong
        have hlength : t.spelling.length = length + 1 := by omega
        rw [← hlength, ← List.prefix_iff_eq_take.mp ht, ofSpelling?_spelling] at hfound
        cases hfound
      rw [Option.none_or, ih]
      constructor
      · rintro ⟨hs, hle, hmax⟩
        exact ⟨hs, by omega, fun t ht hlong => hmax t ht (hshort t ht hlong)⟩
      · rintro ⟨hs, hle, hmax⟩
        exact ⟨hs, hshort s hs hle, fun t ht hle => hmax t ht (by omega)⟩

/-- The symbol that is read is the longest one that the text starts with. -/
theorem longest?_eq_some_iff {text : List Char} {s : Symbol} :
    longest? text = some s ↔ s.spelling <+: text ∧
      ∀ t : Symbol, t.spelling <+: text → t.spelling.length ≤ s.spelling.length := by
  rw [longest?, longestWithin?_eq_some_iff]
  constructor
  · rintro ⟨hs, -, hmax⟩
    exact ⟨hs, fun t ht => hmax t ht t.spelling_length_le⟩
  · rintro ⟨hs, hmax⟩
    exact ⟨hs, s.spelling_length_le, fun t ht _ => hmax t ht⟩

/-- No symbol starts with a character that symbols do not have. -/
theorem longest?_eq_none {c : Char} {rest : List Char}
    (h : c.isAlpha = true ∨ c.isDigit = true ∨ c = '\x22' ∨ Text.isSpace c = true) :
    longest? (c :: rest) = none := by
  cases hl : longest? (c :: rest) with
  | none => rfl
  | some s =>
    have hpre := (longest?_eq_some_iff.mp hl).1
    obtain ⟨d, tail, hs⟩ := List.exists_cons_of_ne_nil
      (List.ne_nil_of_length_pos s.spelling_length_pos)
    rw [hs, List.cons_prefix_cons] at hpre
    have hmem : c ∈ s.spelling := by rw [hs, ← hpre.1]; exact List.mem_cons_self
    obtain ⟨halpha, hdigit, hquote, hspace⟩ := mem_spelling hmem
    rcases h with h | h | h | h
    · rw [halpha] at h; cases h
    · rw [hdigit] at h; cases h
    · exact absurd h hquote
    · rw [hspace] at h; cases h

/-- A character that alone spells a symbol. -/
theorem exists_of_isSymbolChar {c : Char} (h : isSymbolChar c = true) :
    ∃ s : Symbol, s.spelling = [c] := by
  obtain ⟨s, hs⟩ := Option.isSome_iff_exists.mp h
  exact ⟨s, spelling_of_ofSpelling? hs⟩

/-- A symbol is the longest one at its place iff it does not spell another with the next
character. -/
theorem isLongest_iff {s : Symbol} {after : List Char} :
    (∀ t : Symbol, t.spelling <+: s.spelling ++ after → t.spelling.length ≤ s.spelling.length) ↔
      ∀ c ∈ after.head?, ∀ t : Symbol, t.spelling ≠ s.spelling ++ [c] := by
  constructor
  · intro hmax c hc t ht
    obtain ⟨rest, rfl⟩ := List.head?_eq_some_iff.mp hc
    have hpre : t.spelling <+: s.spelling ++ c :: rest := by
      rw [ht]
      exact (List.prefix_append_right_inj _).mpr ⟨rest, rfl⟩
    have hle := hmax t hpre
    rw [ht, List.length_append, List.length_singleton] at hle
    omega
  · intro hnext t hpre
    by_contra hlt
    have hs := s.spelling_length_pos
    have ht2 := t.spelling_length_le
    rw [maxLength_eq] at ht2
    have hlen : t.spelling.length = s.spelling.length + 1 := by omega
    have htt := List.prefix_iff_eq_take.mp hpre
    rw [hlen, List.take_length_add_append] at htt
    cases after with
    | nil => rw [htt] at hlen; simp at hlen
    | cons c rest => exact hnext c rfl t htt

end Symbol

/-! ## Lexemes of any kind -/

namespace Kind

/-- Whether some characters are a lexeme of a kind: letters, the spelling of a symbol, a body
between quotes, or a plain numeral with a suffix that gives it its type. -/
def Spells : Kind → List Char → Prop
  | word, text => text ≠ [] ∧ ∀ c ∈ text, c.isAlpha = true
  | symbol s, text => text = s.spelling
  | literal, text => ∃ body, LiteralBody body ∧ text = '\x22' :: (body ++ ['\x22'])
  | number type, text => ∃ (n : Numeral) (suffix : List Char), n.IsPlain ∧
      NumberKind.Suffixed n.fraction.isSome suffix type ∧ text = n.spelling ++ suffix

/-- Whether a lexeme may end in front of the characters that follow it. No letter follows a word,
no symbol is continued to another one, and a number without suffix stands before the end, a blank,
or a one-character symbol other than the point. -/
def EndsBefore : Kind → List Char → List Char → Prop
  | word, _, after => ∀ c ∈ after.head?, c.isAlpha = false
  | symbol _, text, after => ∀ c ∈ after.head?, ∀ t : Symbol, t.spelling ≠ text ++ [c]
  | literal, _, _ => True
  | number _, text, after => (∃ n : Numeral, n.IsPlain ∧ text = n.spelling) →
      ∀ c ∈ after.head?, Text.isBlank c = true ∨ (Symbol.isSymbolChar c = true ∧ c ≠ '.')

/-- Any lexeme may end at the end of the text. -/
theorem endsBefore_nil (k : Kind) (text : List Char) : k.EndsBefore text [] := by
  cases k <;> simp [EndsBefore]

/-- A lexeme is not empty. -/
theorem Spells.ne_nil {k : Kind} {text : List Char} (h : k.Spells text) : text ≠ [] := by
  cases k with
  | word => exact h.1
  | symbol s =>
    rw [show text = s.spelling from h]
    exact List.ne_nil_of_length_pos s.spelling_length_pos
  | literal =>
    obtain ⟨body, -, rfl⟩ := h
    exact List.cons_ne_nil _ _
  | number type =>
    obtain ⟨n, suffix, hn, -, rfl⟩ := h
    obtain ⟨c, rest, -, hc⟩ := hn.exists_cons
    rw [hc]
    exact List.cons_ne_nil _ _

/-- Only a literal has white space in it. -/
theorem Spells.eq_literal_of_isSpace {k : Kind} {text : List Char} (h : k.Spells text) {c : Char}
    (hc : c ∈ text) (hspace : Text.isSpace c = true) : k = literal := by
  obtain ⟨-, halpha, hdigit⟩ := Text.classes_of_isSpace hspace
  rw [Bool.eq_false_iff] at halpha hdigit
  cases k with
  | literal => rfl
  | word => exact absurd (h.2 c hc) halpha
  | symbol s =>
    have hsymbol : c ∈ s.spelling := h ▸ hc
    exact absurd hspace (Bool.eq_false_iff.mp (Symbol.mem_spelling hsymbol).2.2.2)
  | number type =>
    obtain ⟨n, suffix, hn, hsuffix, rfl⟩ := h
    rcases List.mem_append.mp hc with hc | hc
    · rcases hn.mem_spelling hc with hplain | rfl
      · exact absurd hplain hdigit
      · exact absurd hspace (by decide)
    · rcases hsuffix with ⟨rfl, -⟩ | hsuffix
      · cases hc
      · exact absurd ((NumberKind.isAlpha_of_mem_typeSuffixes hsuffix).2 c hc) halpha

end Kind

end ScriptFront
