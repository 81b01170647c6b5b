import Mathlib.Data.List.Forall2
import ScriptFront.Proofs.Report.Writable

/-!
# The lines of the token table

The token table has one line for each token, whatever text the token carries: quoted text has every
line break in it escaped, and nothing else that is shown has any.

* `IsOneLine` is a text without line breaks, which is one line (`lines_of_isOneLine`);
* `Text.isOneLine_quote`, `Binary64.isOneLine_text`, `Value.isOneLine_shown`: what is shown of a
  value is such a text;
* `Tabulates`, `tokenTable_lines`: the table. It breaks off at the first token with a number that is
  too long to be written.
-/

namespace ScriptFront

namespace Text

/-! ## Texts without line breaks -/

/-- Whether a text has no line break in it. -/
def IsOneLine (text : List Char) : Prop :=
  ∀ c ∈ text, isLineBreak c = false

/-- For a given text it can be checked. -/
theorem isOneLine_of_all {text : List Char} (h : text.all (! isLineBreak ·) = true) :
    IsOneLine text := by
  intro c hc
  simpa using List.all_eq_true.mp h c hc

theorem isOneLine_nil : IsOneLine [] :=
  isOneLine_of_all rfl

@[simp] theorem isOneLine_cons {c : Char} {text : List Char} :
    IsOneLine (c :: text) ↔ isLineBreak c = false ∧ IsOneLine text :=
  List.forall_mem_cons

@[simp] theorem isOneLine_append {text other : List Char} :
    IsOneLine (text ++ other) ↔ IsOneLine text ∧ IsOneLine other :=
  List.forall_mem_append

theorem isOneLine_replicate {c : Char} (hc : isLineBreak c = false) (n : Nat) :
    IsOneLine (List.replicate n c) := by
  intro d hd
  rwa [List.eq_of_mem_replicate hd]

/-- A text without line breaks is a line, with the newline behind it. -/
theorem lines_of_isOneLine {content : List Char} (h : IsOneLine content) :
    lines (content ++ ['\n']) = [content ++ ['\n']] := by
  induction content with
  | nil => rfl
  | cons c content ih =>
    rw [isOneLine_cons] at h
    rw [List.cons_append, lines_cons_of_not h.1, ih h.2]
    rfl

/-! ## What is shown -/

theorem isLineBreak_iff {c : Char} : isLineBreak c = true ↔
    (0x0A ≤ c.toNat ∧ c.toNat ≤ 0x0D) ∨ (0x1C ≤ c.toNat ∧ c.toNat ≤ 0x1E) ∨ c.toNat = 0x85 ∨
      (0x2028 ≤ c.toNat ∧ c.toNat ≤ 0x2029) := by
  simp only [isLineBreak, Ranges.has, List.any_cons, List.any_nil, Bool.or_eq_true,
    Bool.and_eq_true, decide_eq_true_eq, Bool.false_eq_true, or_false]
  omega

/-- No line break is printable. -/
theorem not_isLineBreak_of_isPrintable {c : Char} (h : isPrintable c = true) :
    isLineBreak c = false := by
  have hranges : ∀ low high, (low, high) ∈ unprintable → ¬ (low ≤ c.toNat ∧ c.toNat ≤ high) := by
    intro low high hmem hin
    rw [isPrintable, Bool.not_eq_true', Ranges.has, List.any_eq_false] at h
    exact h _ hmem (by simp [hin])
  rw [← Bool.not_eq_true, isLineBreak_iff]
  -- three of the ranges that are not printable have all line breaks in them
  have hcontrol := hranges 0x0 0x1F (by decide +kernel)
  have hnext := hranges 0x7F 0xA0 (by decide +kernel)
  have hseparator := hranges 0x2028 0x202F (by decide +kernel)
  omega

theorem isOneLine_toDigits {b : Nat} (hb : 1 < b) (hb' : b ≤ 16) (n : Nat) :
    IsOneLine (Nat.toDigits b n) := by
  have hdigit : ∀ d < 16, isLineBreak (Nat.digitChar d) = false := by decide
  induction n using Nat.strong_induction_on with
  | _ n ih =>
    rw [Nat.toDigits_eq_if hb]
    split
    · simp [isOneLine_nil, hdigit n (by omega)]
    · have hmod : n % b < 16 := Nat.lt_of_lt_of_le (Nat.mod_lt _ (by omega)) hb'
      simp [isOneLine_nil, hdigit _ hmod, ih (n / b) (Nat.div_lt_self (by omega) hb)]

theorem isOneLine_ofNat (n : Nat) : IsOneLine (ofNat n) :=
  isOneLine_toDigits (by decide) (by decide) n

theorem isOneLine_ofInt (n : Int) : IsOneLine (ofInt n) := by
  unfold ofInt
  split
  · exact isOneLine_cons.mpr ⟨by decide, isOneLine_ofNat _⟩
  · exact isOneLine_ofNat _

theorem isOneLine_hex (width n : Nat) : IsOneLine (hex width n) :=
  isOneLine_append.mpr
    ⟨isOneLine_replicate (by decide) _, isOneLine_toDigits (by decide) (by decide) n⟩

theorem isOneLine_codeEscape (c : Char) : IsOneLine (codeEscape c) := by
  have hescape : ∀ letter width, isLineBreak letter = false →
      IsOneLine ('\\' :: letter :: hex width c.toNat) := fun letter width hletter =>
    isOneLine_cons.mpr ⟨by decide, isOneLine_cons.mpr ⟨hletter, isOneLine_hex _ _⟩⟩
  unfold codeEscape
  split_ifs
  · exact hescape 'x' 2 (by decide)
  · exact hescape 'u' 4 (by decide)
  · exact hescape 'U' 8 (by decide)

theorem isOneLine_quoteChar {mark : Char} (hmark : isLineBreak mark = false) (c : Char) :
    IsOneLine (quoteChar mark c) := by
  unfold quoteChar
  split_ifs with hescaped htab hnewline hreturn hprint
  · -- what stands behind the backslash is the mark or a backslash, and no line break
    have hc : isLineBreak c = false := by
      rcases Bool.or_eq_true_iff.mp hescaped with hc | hc
      · rwa [of_decide_eq_true hc]
      · rw [of_decide_eq_true hc]
        decide
    exact isOneLine_cons.mpr ⟨by decide, isOneLine_cons.mpr ⟨hc, isOneLine_nil⟩⟩
  · exact isOneLine_of_all rfl
  · exact isOneLine_of_all rfl
  · exact isOneLine_of_all rfl
  · exact isOneLine_cons.mpr ⟨not_isLineBreak_of_isPrintable hprint, isOneLine_nil⟩
  · exact isOneLine_codeEscape c

/-- Between quotes there are no line breaks, whatever the text has in it. -/
theorem isOneLine_quote (text : List Char) : IsOneLine (quote text) := by
  have hmark : isLineBreak (quoteMark text) = false := by
    unfold quoteMark
    split <;> decide
  have hbody : IsOneLine (text.flatMap (quoteChar (quoteMark text))) := by
    intro d hd
    obtain ⟨c, -, hmem⟩ := List.mem_flatMap.mp hd
    exact isOneLine_quoteChar hmark c d hmem
  have hclosed := isOneLine_append.mpr ⟨hbody, isOneLine_cons.mpr ⟨hmark, isOneLine_nil⟩⟩
  exact isOneLine_cons.mpr ⟨hmark, hclosed⟩

end Text

namespace Binary64

open Text (IsOneLine isOneLine_append isOneLine_cons isOneLine_of_all isOneLine_replicate)

section

variable {digits : List Char} (h : IsOneLine digits)

include h

theorem isOneLine_trimZeros : IsOneLine (trimZeros digits) := by
  intro c hc
  have hmem := (List.dropWhile_sublist _).mem (List.mem_reverse.mp hc)
  exact h c (List.mem_reverse.mp hmem)

theorem isOneLine_take (n : Nat) : IsOneLine (digits.take n) :=
  fun c hc => h c (List.mem_of_mem_take hc)

theorem isOneLine_drop (n : Nat) : IsOneLine (digits.drop n) :=
  fun c hc => h c (List.mem_of_mem_drop hc)

theorem isOneLine_positional (leading : Int) : IsOneLine (positional digits leading) := by
  have hzeros : ∀ n, IsOneLine (List.replicate n '0') := isOneLine_replicate (by decide)
  unfold positional
  split
  · have hpoint : IsOneLine ['0', '.'] := isOneLine_of_all rfl
    exact isOneLine_append.mpr ⟨isOneLine_append.mpr ⟨hpoint, hzeros _⟩, h⟩
  · have hfraction : ∀ n, IsOneLine
        (if (digits.drop n).isEmpty then ['0'] else digits.drop n) := by
      intro n
      split
      · exact isOneLine_of_all rfl
      · exact isOneLine_drop h n
    exact isOneLine_append.mpr ⟨isOneLine_append.mpr ⟨isOneLine_take h _, hzeros _⟩,
      isOneLine_cons.mpr ⟨by decide, hfraction _⟩⟩

theorem isOneLine_scientific (width : Nat) (leading : Int) :
    IsOneLine (scientific width digits leading) := by
  have hpoint : IsOneLine
      (if digits.length ≤ 1 then digits else digits.take 1 ++ '.' :: digits.drop 1) := by
    split
    · exact h
    · exact isOneLine_append.mpr
        ⟨isOneLine_take h 1, isOneLine_cons.mpr ⟨by decide, isOneLine_drop h 1⟩⟩
  have hsign : Text.isLineBreak (if leading < 0 then '-' else '+') = false := by
    split <;> decide
  have hexponent : ∀ n, IsOneLine (List.replicate n '0' ++ Text.ofNat leading.natAbs) := fun n =>
    isOneLine_append.mpr ⟨isOneLine_replicate (by decide) n, Text.isOneLine_ofNat _⟩
  exact isOneLine_append.mpr
    ⟨hpoint, isOneLine_cons.mpr ⟨by decide, isOneLine_cons.mpr ⟨hsign, hexponent _⟩⟩⟩

end

theorem isOneLine_signed {text : List Char} (h : IsOneLine text) (negative : Bool) :
    IsOneLine (signed negative text) := by
  cases negative with
  | false => exact h
  | true => exact isOneLine_cons.mpr ⟨by decide, h⟩

theorem isOneLine_text {layout : Layout} (hinfinity : IsOneLine layout.infinity.toList)
    (hnan : IsOneLine layout.nan.toList) (x : Binary64) : IsOneLine (layout.text x) := by
  cases x with
  | finite negative significand exponent canonical =>
    refine isOneLine_signed ?_ negative
    have hdigits := isOneLine_trimZeros
      (Text.isOneLine_ofNat (shortest significand exponent).digits)
    unfold Layout.magnitude
    dsimp only
    split_ifs
    · exact isOneLine_positional (isOneLine_of_all rfl) 0
    · exact isOneLine_positional hdigits _
    · exact isOneLine_scientific hdigits _ _
  | infinite negative => exact isOneLine_signed hinfinity negative
  | nan => exact hnan

end Binary64

/-- A value is shown without line breaks. -/
theorem Value.isOneLine_shown (v : Value) : Text.IsOneLine v.shown := by
  cases v with
  | text s => exact Text.isOneLine_quote s.toList
  | int n => exact Text.isOneLine_ofInt n
  | real x =>
    exact Binary64.isOneLine_text (Text.isOneLine_of_all rfl) (Text.isOneLine_of_all rfl) x

namespace Report

open Text (IsOneLine)

/-! ## Lines -/

/-- Whether the numbers in the line of a token can be written. -/
structure HasLine (t : Token) : Prop where
  row : t.position.row.natAbs < Text.unwritable
  column : t.position.column.natAbs < Text.unwritable
  value : ∀ n, t.value = .int n → n.natAbs < Text.unwritable

theorem hasTableLine_iff {t : Token} : hasTableLine t = true ↔ HasLine t := by
  rw [hasTableLine, Bool.and_eq_true, Bool.and_eq_true, Text.isWritable_iff, Text.isWritable_iff,
    Value.isWritable_iff]
  exact ⟨fun h => ⟨h.1.1, h.1.2, h.2⟩, fun h => ⟨⟨h.row, h.column⟩, h.value⟩⟩

/-- Whether a text shows a token: it starts with row and column, ends with the value, and has no
line break in it. -/
structure Describes (t : Token) (content : List Char) : Prop where
  isOneLine : IsOneLine content
  content_eq : ∃ between, content = Text.ofInt t.position.row ++ ':' ::
    Text.ofInt t.position.column ++ ' ' :: between ++ ' ' :: t.value.shown

/-- Whether the lines of a text show tokens, one line each, with a newline at its end. -/
def Tabulates (tokens : List Token) (table : String) : Prop :=
  ∃ contents, Text.lines table.toList = contents.map (· ++ ['\n']) ∧
    List.Forall₂ Describes tokens contents

theorem isOneLine_padded {text : List Char} (h : IsOneLine text) (width : Nat) :
    IsOneLine (padded width text) :=
  Text.isOneLine_append.mpr ⟨h, Text.isOneLine_replicate (by decide) _⟩

theorem isOneLine_name (k : Kind) :
    IsOneLine k.category.name.toList ∧ IsOneLine k.name.toList := by
  have hall : Kind.all.all (fun k => k.category.name.toList.all (! Text.isLineBreak ·) &&
      k.name.toList.all (! Text.isLineBreak ·)) := by
    decide +kernel
  have hk := List.all_eq_true.mp hall k (Kind.mem_all k)
  rw [Bool.and_eq_true] at hk
  exact ⟨Text.isOneLine_of_all hk.1, Text.isOneLine_of_all hk.2⟩

/-- The line of a token shows it. -/
theorem exists_describes (t : Token) :
    ∃ content, tableLine t = content ++ ['\n'] ∧ Describes t content := by
  refine ⟨Text.ofInt t.position.row ++ ':' :: Text.ofInt t.position.column ++
    ' ' :: (padded 6 t.kind.category.name.toList ++ ' ' :: padded 20 t.kind.name.toList) ++
    ' ' :: t.value.shown, ?_, ?_, _, rfl⟩
  · simp [tableLine]
  · have hcategory := isOneLine_padded (isOneLine_name t.kind).1 6
    have hname := isOneLine_padded (isOneLine_name t.kind).2 20
    have hspace : Text.isLineBreak ' ' = false := by decide
    have hcolon : Text.isLineBreak ':' = false := by decide
    simp [Text.isOneLine_ofInt, hcategory, hname, hspace, hcolon, t.value.isOneLine_shown]

/-- Lines below each other show the tokens one by one. -/
theorem tabulates_flatMap (tokens : List Token) :
    Tabulates tokens (String.ofList (tokens.flatMap tableLine)) := by
  rw [Tabulates, String.toList_ofList]
  induction tokens with
  | nil => exact ⟨[], rfl, .nil⟩
  | cons t tokens ih =>
    obtain ⟨content, hline, hcontent⟩ := exists_describes t
    obtain ⟨contents, hlines, hcontents⟩ := ih
    refine ⟨content :: contents, ?_, .cons hcontent hcontents⟩
    rw [List.flatMap_cons, hline, List.append_assoc, List.singleton_append,
      Text.lines_append_newline, Text.lines_of_isOneLine hcontent.isOneLine, hlines]
    rfl

theorem tabulates_of_hasLine {tokens : List Token} (h : ∀ t ∈ tokens, HasLine t) :
    tableBreakdown? tokens = none ∧ Tabulates tokens (tokenTable tokens) := by
  obtain ⟨htable, hunbroken⟩ :=
    tokenTable_of_hasTableLine fun t ht => hasTableLine_iff.mpr (h t ht)
  rw [htable]
  exact ⟨hunbroken, tabulates_flatMap tokens⟩

/-- The table ends in front of a token that has no line. -/
theorem tabulates_of_not_hasLine {front : List Token} {t : Token}
    (hfront : ∀ u ∈ front, HasLine u) (ht : ¬ HasLine t) (others : List Token) :
    tableBreakdown? (front ++ t :: others) = some .integerTooLong ∧
      Tabulates front (tokenTable (front ++ t :: others)) := by
  have hlines : ∀ u ∈ front, hasTableLine u = true := fun u hu => hasTableLine_iff.mpr (hfront u hu)
  rw [← hasTableLine_iff] at ht
  have hbroken : ¬ (front ++ t :: others).all hasTableLine = true := by
    simp [ht]
  refine ⟨if_neg hbroken, ?_⟩
  rw [tokenTable, List.takeWhile_append_of_pos hlines, List.takeWhile_cons_of_neg ht,
    List.append_nil]
  exact tabulates_flatMap front

/-- The token table has exactly one line for each token. If a row, a column or an integer is too
long to be written, it breaks off there, and has the lines of the tokens before. -/
theorem tokenTable_lines (tokens : List Token) :
    ((∀ t ∈ tokens, HasLine t) →
      tableBreakdown? tokens = none ∧ Tabulates tokens (tokenTable tokens)) ∧
    (∀ front t others, tokens = front ++ t :: others → (∀ u ∈ front, HasLine u) → ¬ HasLine t →
      tableBreakdown? tokens = some .integerTooLong ∧ Tabulates front (tokenTable tokens)) := by
  refine ⟨tabulates_of_hasLine, ?_⟩
  rintro front t others rfl hfront ht
  exact tabulates_of_not_hasLine hfront ht others

/-- A text with both quotes and two line breaks in it has one line like any other value. -/
theorem tokenTable_lines_quotes :
    let tokens : List Token :=
      [⟨.literal, .text "'\"\n\u2028", ⟨1, 0, 0, 8⟩⟩,
       ⟨.number .double, .real (.infinite false), ⟨2, -1, 9, 310⟩⟩]
    tableBreakdown? tokens = none ∧ Tabulates tokens (tokenTable tokens) := by
  intro tokens
  refine (tokenTable_lines tokens).1 ?_
  intro t ht
  obtain rfl | rfl : t = _ ∨ t = _ := by simpa [tokens] using ht
  · exact ⟨by decide +kernel, by decide +kernel, by simp⟩
  · exact ⟨by decide +kernel, by decide +kernel, by simp⟩

theorem Tabulates.length_lines {tokens : List Token} {table : String} (h : Tabulates tokens table) :
    (Text.lines table.toList).length = tokens.length := by
  obtain ⟨contents, hlines, hcontents⟩ := h
  rw [hlines, List.length_map, hcontents.length_eq]

/-- With the widest margin that can be written, the second token of a source has no line. -/
theorem tokenTable_wide_margin :
    ∃ tokens, tokenize "/;" (Text.unwritable - 1) = .ok tokens ∧
      tableBreakdown? tokens = some .integerTooLong ∧ ¬ Tabulates tokens (tokenTable tokens) := by
  let slash : Token := ⟨.symbol .divide, .text "/", ⟨1, 0, 0, 1⟩⟩
  let semicolon : Token := ⟨.symbol .terminator, .text ";", ⟨1, 1, 1, 1⟩⟩
  have hzero : tokenize "/;" 0 = .ok [slash, semicolon] := by decide +kernel
  have hslash : ∀ t ∈ [slash.shifted (Text.unwritable - 1)], HasLine t := by
    intro t ht
    rw [List.mem_singleton.mp ht]
    have hcolumn : (0 + (Text.unwritable - 1) : Int).natAbs < Text.unwritable := by
      have hpos : 0 < Text.unwritable := by decide +kernel
      omega
    refine ⟨by decide +kernel, hcolumn, ?_⟩
    rintro n ⟨⟩
  have hsemicolon : ¬ HasLine (semicolon.shifted (Text.unwritable - 1)) := by
    intro h
    have hcolumn : (1 + (Text.unwritable - 1) : Int).natAbs < Text.unwritable := h.column
    omega
  obtain ⟨hbroken, htable⟩ := tabulates_of_not_hasLine hslash hsemicolon []
  refine ⟨_, tokenize_margin_of_ok hzero _, hbroken, ?_⟩
  -- one line cannot stand for two tokens
  intro hall
  have hone : (Text.lines _).length = 1 := htable.length_lines
  have htwo : (Text.lines _).length = 2 := hall.length_lines
  exact absurd (hone.symm.trans htwo) (by decide)

end Report

end ScriptFront
