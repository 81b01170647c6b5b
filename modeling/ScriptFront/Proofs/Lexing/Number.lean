import Mathlib.Data.Nat.Digits.Defs
import Mathlib.Tactic.Ring
import ScriptFront.Proofs.Lexing.Outcome

/-!
# Reading a number at any place

Tokenizing reads a number only where a digit stands, but a cursor can be asked for one anywhere, and
then the numeral may have a sign, or lack digits. What happens is said here by the characters that
are left, without any reader:

* `IsNumeral` and `IsLongestNumeral`: the characters that the numeral consists of;
* `spelledValue`: its value, as an integer in base ten or as a decimal fraction;
* `TextCursor.ScansNumber`: what the characters after the numeral lead to.

`number_scanned` says that every cursor reads a number so. The steps are that the numeral which is
split off is the longest (`IsCut.longest`), that its value is the one it spells
(`IsCut.value_eq`), and one lemma for each thing that may follow it.
-/

namespace ScriptFront

/-! ## Numerals by their characters -/

/-- Whether some characters are a numeral: an optional minus sign, then digits with at most one
point among them. There need not be any digit. -/
def IsNumeral (w : List Char) : Prop :=
  ∃ sign body, w = sign ++ body ∧ (sign = [] ∨ sign = ['-']) ∧
    (∀ c ∈ body, c.isDigit = true ∨ c = '.') ∧ body.count '.' ≤ 1

/-- Whether some characters are the longest numeral that a text starts with. -/
def IsLongestNumeral (w text : List Char) : Prop :=
  (∃ after, text = w ++ after) ∧ IsNumeral w ∧
    ∀ v after, text = v ++ after → IsNumeral v → v.length ≤ w.length

/-- The natural number that digits spell in base ten, the first digit being the most significant. -/
def spelledNat (digits : List Char) : Nat :=
  Nat.ofDigits 10 (digits.reverse.map fun c => c.toNat - '0'.toNat)

/-- The value that a numeral spells: an integer without a point, the nearest binary64 number with
one. A numeral without digits, or an integer of too many digits, has the value zero. -/
def spelledValue (w : List Char) : Value :=
  let digits := w.filter Char.isDigit
  let decimals := (w.reverse.takeWhile (· ≠ '.')).length
  if '.' ∈ w then
    if digits = [] then .int 0
    else .real (.ofDecimal (w.head? == some '-') (spelledNat digits) (-decimals))
  else if digits.length ≤ Text.digitLimit then
    .int (if w.head? = some '-' then -spelledNat digits else spelledNat digits)
  else .int 0

/-! ## The longest numeral -/

/-- A numeral that is longer than some characters goes on with a digit or a point, or it starts with
a sign there. -/
theorem IsNumeral.continued {w more : List Char} {c : Char} (h : IsNumeral (w ++ c :: more)) :
    (c.isDigit = true ∨ c = '.' ∨ (c = '-' ∧ w = [])) ∧ (w ++ c :: more).count '.' ≤ 1 := by
  obtain ⟨sign, body, heq, hsign, hbody, hcount⟩ := h
  rcases hsign with rfl | rfl
  · have hc : c ∈ body := by
      rw [List.nil_append] at heq
      rw [← heq]
      simp
    rw [heq, List.nil_append]
    exact ⟨(hbody c hc).imp_right .inl, hcount⟩
  · constructor
    · cases w with
      | nil => exact .inr (.inr ⟨(List.cons.inj heq).1, rfl⟩)
      | cons a w =>
        have htail : w ++ c :: more = body := (List.cons.inj heq).2
        have hc : c ∈ body := by
          rw [← htail]
          simp
        exact (hbody c hc).imp_right .inl
    · rw [heq, List.singleton_append, List.count_cons_of_ne (by decide)]
      exact hcount

/-- Of two beginnings of a text, the longer one goes on with what follows the shorter one. -/
theorem Text.exists_cons_of_lt {w v after more : List Char} (h : w ++ after = v ++ more)
    (hlt : w.length < v.length) : ∃ c rest, v = w ++ c :: rest ∧ after.head? = some c := by
  rcases List.append_eq_append_iff.mp h with ⟨rest, hv, hafter⟩ | ⟨rest, hw, -⟩
  · cases rest with
    | nil =>
      rw [hv, List.append_nil] at hlt
      omega
    | cons c rest =>
      refine ⟨c, rest, hv, ?_⟩
      rw [hafter]
      rfl
  · rw [hw, List.length_append] at hlt
    omega

namespace Numeral

/-- Digits have no point among them. -/
theorem point_not_mem {digits : List Char} (h : ∀ c ∈ digits, c.isDigit = true) :
    '.' ∉ digits := by
  intro hmem
  exact absurd (h '.' hmem) (by decide)

namespace IsCut

variable {n : Numeral} {after : List Char}

/-- A numeral that is cut off has the characters of one. -/
theorem isNumeral (h : n.IsCut after) : IsNumeral n.spelling := by
  obtain ⟨negative, whole, fraction⟩ := n
  have hwhole : ∀ c ∈ whole, c.isDigit = true := h.whole
  have hcount : whole.count '.' = 0 := List.count_eq_zero.mpr (point_not_mem hwhole)
  have hsign : (if negative then ['-'] else []) = [] ∨
      (if negative then ['-'] else []) = ['-'] := by
    cases negative with
    | false => exact .inl rfl
    | true => exact .inr rfl
  cases fraction with
  | none =>
    refine ⟨_, whole, List.append_nil _, hsign, fun c hc => .inl (hwhole c hc), ?_⟩
    omega
  | some digits =>
    have hdigits : ∀ c ∈ digits, c.isDigit = true := h.fraction
    have hzero : digits.count '.' = 0 := List.count_eq_zero.mpr (point_not_mem hdigits)
    refine ⟨_, whole ++ '.' :: digits, List.append_assoc _ _ _, hsign, ?_, ?_⟩
    · intro c hc
      rw [List.mem_append, List.mem_cons] at hc
      rcases hc with hc | hc | hc
      · exact .inl (hwhole c hc)
      · exact .inr hc
      · exact .inl (hdigits c hc)
    · rw [List.count_append, List.count_cons_self]
      omega

/-- A numeral that is cut off has a point in its spelling if it has a fraction. -/
theorem point_mem_iff (h : n.IsCut after) : '.' ∈ n.spelling ↔ n.fraction.isSome = true := by
  constructor
  · intro hmem
    by_contra hnone
    rw [Bool.not_eq_true, Option.isSome_eq_false_iff, Option.isNone_iff_eq_none] at hnone
    rw [spelling, hnone, List.append_nil, List.mem_append] at hmem
    rcases hmem with hmem | hmem
    · cases hneg : n.negative <;> simp [hneg] at hmem
    · exact point_not_mem h.whole hmem
  · exact point_mem_spelling

/-- A numeral that is cut off has a sign in front if it is negative. -/
theorem head?_eq_iff (h : n.IsCut after) : n.spelling.head? = some '-' ↔ n.negative = true := by
  constructor
  · intro hhead
    by_contra hneg
    have hspelling : n.spelling = n.whole ++ (n.fraction.map ('.' :: ·)).getD [] := by
      rw [spelling, if_neg hneg, List.nil_append]
      cases n.fraction <;> rfl
    rw [hspelling] at hhead
    cases hwhole : n.whole with
    | nil =>
      rw [hwhole, List.nil_append] at hhead
      cases hfraction : n.fraction <;> simp [hfraction] at hhead
    | cons c rest =>
      have hc : c.isDigit = true := h.whole c (by rw [hwhole]; exact List.mem_cons_self)
      rw [hwhole, List.cons_append, List.head?_cons, Option.some.injEq] at hhead
      rw [hhead] at hc
      exact absurd hc (by decide)
  · intro hneg
    rw [spelling, if_pos hneg]
    rfl

/-- A numeral that is cut off is the longest. -/
theorem longest (h : n.IsCut after) : IsLongestNumeral n.spelling (n.spelling ++ after) := by
  refine ⟨⟨after, rfl⟩, h.isNumeral, ?_⟩
  intro v more htext hv
  by_contra hlt
  obtain ⟨c, rest, rfl, hc⟩ := Text.exists_cons_of_lt htext (by omega)
  obtain ⟨hclass, hcount⟩ := hv.continued
  rcases hclass with hdigit | rfl | ⟨rfl, hnil⟩
  · rw [h.digit c hc] at hdigit
    cases hdigit
  · -- a point goes on with the numeral unless it has one
    by_cases hmem : '.' ∈ n.spelling
    · have hone : 0 < n.spelling.count '.' := List.count_pos_iff.mpr hmem
      rw [List.count_append, List.count_cons_self] at hcount
      omega
    · rw [h.point_mem_iff, Option.not_isSome_iff_eq_none] at hmem
      exact h.point hmem '.' hc rfl
  · exact h.sign hnil '-' hc rfl

/-! ## Its value -/

/-- The digits of a numeral that is cut off. -/
theorem filter_spelling (h : n.IsCut after) :
    n.spelling.filter Char.isDigit = n.whole ++ n.fraction.getD [] := by
  have hsign : (if n.negative then ['-'] else []).filter Char.isDigit = [] := by
    cases n.negative <;> decide
  rw [spelling, List.filter_append, List.filter_append, hsign, List.nil_append,
    List.filter_eq_self.mpr h.whole]
  cases hfraction : n.fraction with
  | none => rfl
  | some digits =>
    have hdigits : ∀ c ∈ digits, c.isDigit = true := by
      have hdigits := h.fraction
      rw [hfraction] at hdigits
      exact hdigits
    show _ ++ ('.' :: digits).filter Char.isDigit = _
    rw [List.filter_cons_of_neg (by decide), List.filter_eq_self.mpr hdigits]
    rfl

/-- The characters behind the point are the digits of the fraction. -/
theorem takeWhile_reverse_spelling (h : n.IsCut after) {digits : List Char}
    (hfraction : n.fraction = some digits) :
    n.spelling.reverse.takeWhile (· ≠ '.') = digits.reverse := by
  have hdigits : ∀ c ∈ digits.reverse, decide (c ≠ '.') = true := by
    intro c hc
    have hc := h.fraction c (by rw [hfraction]; exact List.mem_reverse.mp hc)
    rw [decide_eq_true_eq]
    rintro rfl
    exact absurd hc (by decide)
  rw [spelling, hfraction, List.reverse_append, List.reverse_cons, List.append_assoc]
  apply Text.takeWhile_run hdigits
  intro c hc
  cases hc
  rfl

end IsCut

/-- Reading digits one after the other gives the number that they spell. -/
theorem digitsValue_eq (digits : List Char) : digitsValue digits = spelledNat digits := by
  -- with digits before these, whose value is `init`
  have hrun : ∀ init, Nat.ofDigitChars 10 digits init =
      spelledNat digits + 10 ^ digits.length * init := by
    induction digits with
    | nil =>
      intro init
      simp [spelledNat]
    | cons c digits ih =>
      intro init
      have hcons : spelledNat (c :: digits) =
          spelledNat digits + 10 ^ digits.length * (c.toNat - '0'.toNat) := by
        rw [spelledNat, List.reverse_cons, List.map_append, Nat.ofDigits_append, List.length_map,
          List.length_reverse]
        rfl
      rw [Nat.ofDigitChars_cons, ih, hcons, List.length_cons]
      ring
  have hzero := hrun 0
  rw [Nat.mul_zero, Nat.add_zero] at hzero
  exact hzero

/-- The value of a numeral that is cut off is the one it spells. -/
theorem IsCut.value_eq {n : Numeral} {after : List Char} (h : n.IsCut after) :
    n.value = spelledValue n.spelling := by
  have hsign : (n.spelling.head? == some '-') = n.negative := by
    rw [Bool.eq_iff_iff, beq_iff_eq, h.head?_eq_iff]
  unfold spelledValue value
  simp only [h.filter_spelling, hsign, h.head?_eq_iff, h.point_mem_iff]
  cases hfraction : n.fraction with
  | none =>
    simp only [Option.isSome_none, Bool.false_eq_true, if_false, Option.getD_none, List.append_nil,
      digitsValue_eq, Text.signedNat, Bool.or_eq_true, List.isEmpty_iff, decide_eq_true_eq]
    by_cases hnil : n.whole = []
    · -- no digits spell zero, so they need no case of their own
      simp [hnil, spelledNat]
    · by_cases hlimit : n.whole.length ≤ Text.digitLimit
      · rw [if_neg (by simp only [hnil, false_or]; omega), if_pos hlimit]
      · rw [if_pos (.inr (by omega)), if_neg hlimit]
  | some digits =>
    simp only [h.takeWhile_reverse_spelling hfraction, Option.isSome_some, if_true,
      Option.getD_some, List.length_reverse, digitsValue_eq, Bool.and_eq_true, List.isEmpty_iff,
      List.append_eq_nil_iff]

end Numeral

/-! ## What follows the numeral -/

/-- The letters with which the suffixes of numbers are spelled. -/
def NumberKind.typeLetters : List Char :=
  ['u', 'U', 'd', 'D', 'f', 'F', 'i', 'I', 's', 'S', 'l', 'L']

namespace TextCursor

/-- Reading a number at the cursor takes some characters for a number, and moves over them. -/
def Takes (k : TextCursor) (width : Nat) (type : NumberKind) (value : Value) : Prop :=
  k.perform .number =
    (.ok (.token (some ⟨.number type, value,
      ⟨k.place.row, k.place.column, k.place.offset, width⟩⟩)), k.move width)

/-- Reading a number at the cursor stops behind some characters, with an error there. The error is
reported, unless its row or its column has too many digits to be written. -/
def Refuses (k : TextCursor) (width : Nat) (kind : ErrorKind) : Prop :=
  ∃ e : LexError, e.kind = some kind ∧ e.offset = (k.place.offset + width : Nat) ∧
    e.row = (k.move width).place.row ∧ e.column = (k.move width).place.column ∧
    k.perform .number =
      (.error (if Text.isWritable e.row && Text.isWritable e.column then .reported e
        else .abort .integerTooLong), k.move width)

/-- What reading a number comes to, given the numeral and what follows it. There is one field for
each thing that may follow, and together they leave nothing out. -/
structure ScansNumber (k : TextCursor) (w after : List Char) : Prop where
  /-- A point that does not belong to the numeral is a second one. -/
  point : after.head? = some '.' → '.' ∈ w ∧ k.Refuses w.length .doubleDecimalPoint
  /-- The end, white space or a symbol ends the number. -/
  plain : (∀ c ∈ after.head?,
      c ≠ '.' ∧ (Text.isSpace c = true ∨ Symbol.isSymbolChar c = true)) →
    k.Takes w.length (if '.' ∈ w then .float else .signed .int) (spelledValue w)
  /-- A number with a sign has no unsigned type. -/
  negative : ∀ mark rest, after = mark :: rest → mark ∈ ['u', 'U'] → w.head? = some '-' →
    k.Refuses w.length .negativeUnsigned
  /-- The mark of unsigned types needs a letter after it. -/
  noSize : ∀ mark, after = [mark] → mark ∈ ['u', 'U'] → w.head? ≠ some '-' →
    k.Refuses (w.length + 1) .unexpectedEnd
  /-- Only small letters stand for a size there. -/
  otherSize : ∀ mark c rest, after = mark :: c :: rest → mark ∈ ['u', 'U'] →
    w.head? ≠ some '-' → c ∉ ['i', 's', 'l'] → k.Refuses (w.length + 1) .unknownIntegerType
  size : ∀ mark c size rest, after = mark :: c :: rest → mark ∈ ['u', 'U'] →
    w.head? ≠ some '-' → (c, size) ∈ [('i', .int), ('s', .short), ('l', .long)] →
    k.Takes (w.length + 2) (.unsigned size) (spelledValue w).truncated
  /-- A letter in either case stands for a floating type. -/
  floating : ∀ c type rest, after = c :: rest →
    (c, type) ∈ [('d', .double), ('D', .double), ('f', .float), ('F', .float)] →
    k.Takes (w.length + 1) type (spelledValue w).floated
  /-- Or it stands for the size of a signed type. -/
  integer : ∀ c size rest, after = c :: rest →
    (c, size) ∈ [('i', .int), ('I', .int), ('s', .short), ('S', .short), ('l', .long),
      ('L', .long)] →
    k.Takes (w.length + 1) (.signed size) (spelledValue w).truncated
  /-- Any other character is refused, once it has been passed over. -/
  other : ∀ c rest, after = c :: rest → Text.isSpace c = false →
    Symbol.isSymbolChar c = false →
    c ∉ NumberKind.typeLetters → k.Refuses (w.length + 1) .unknownNumberType
  /-- Without a point, the value is an integer, and an integer type keeps it. -/
  kept : '.' ∉ w → (spelledValue w).truncated = spelledValue w

/-- A lexeme that is read is taken. -/
theorem takes_of_took {k : TextCursor} {width : Nat} {type : NumberKind} {value : Value}
    (h : Lexeme.number k.rest = .took width ⟨.number type, value⟩) : k.Takes width type value := by
  rw [Takes, perform, h]
  rfl

/-- A failure is an error behind the characters that were passed over. -/
theorem refuses_of_failed {k : TextCursor} {width : Nat} (cause : Cause) {kind : ErrorKind}
    (h : Lexeme.number k.rest = .failed width cause) (hwidth : width ≤ k.rest.length)
    (hkind : cause.kind = some kind) : k.Refuses width kind := by
  refine ⟨(k.move width).error cause, hkind, ?_, rfl, rfl, ?_⟩
  · show ((k.move width).place.offset : Int) = (k.place.offset + width : Nat)
    rw [offset_move, Nat.min_eq_left hwidth]
  · rw [perform, h]
    rfl

end TextCursor

/-- Three letters stand for the size of an integer. -/
theorem IntegerSize.ofSuffix?_eq_none {c : Char} (h : c ∉ ['i', 's', 'l']) :
    ofSuffix? c = none := by
  rw [ofSuffix?, List.lookup_eq_none_iff]
  intro entry hentry
  simp only [suffixes, List.mem_cons, List.not_mem_nil, or_false] at h hentry
  rw [bne_iff_ne]
  rcases hentry with rfl | rfl | rfl <;> tauto

namespace Lexeme

theorem isUnsignedMark_iff_mem {c : Char} : isUnsignedMark c = true ↔ c ∈ ['u', 'U'] := by
  simp [isUnsignedMark]

/-- After the mark of unsigned types, what follows it is looked at, unless the numeral is
negative. -/
theorem numberType_of_mark (n : Numeral) {mark : Char} (hmark : mark ∈ ['u', 'U'])
    (rest : List Char) :
    numberType n (mark :: rest) =
      if n.negative then .failed n.spelling.length .negativeUnsigned
      else unsignedNumber n (n.spelling.length + 1) rest := by
  rw [← isUnsignedMark_iff_mem] at hmark
  have hpoint := (classes_of_isUnsignedMark hmark).2
  simp [numberType, hpoint, hmark]

/-- A character that neither ends a numeral nor stands for a type is refused. -/
theorem numberType_of_other (n : Numeral) {c : Char} (hspace : Text.isSpace c = false)
    (hsymbol : Symbol.isSymbolChar c = false)
    (hc : c ∉ NumberKind.typeLetters) (rest : List Char) :
    numberType n (c :: rest) = .failed (n.spelling.length + 1) (.unknownNumberType c) := by
  have hpoint := ne_point_of_not_isSymbolChar hsymbol
  have hmark : isUnsignedMark c = false := by
    rw [Bool.eq_false_iff, ne_eq, isUnsignedMark_iff_mem]
    intro hmem
    exact hc (List.mem_append_left ['d', 'D', 'f', 'F', 'i', 'I', 's', 'S', 'l', 'L'] hmem)
  have htype : NumberKind.ofSuffix? c = none := by
    by_contra hsome
    obtain ⟨type, htype⟩ := Option.ne_none_iff_exists'.mp hsome
    have hmem := NumberKind.mem_typeSuffixes_of_ofSuffix? htype
    -- the letters of all suffixes are among these
    have hall : NumberKind.typeSuffixes.all (fun entry => entry.1.all fun letter =>
        letter ∈ NumberKind.typeLetters) = true := by decide
    have hletters := List.all_eq_true.mp hall _ hmem
    exact hc (of_decide_eq_true (List.all_eq_true.mp hletters c List.mem_cons_self))
  simp [numberType, hpoint, hmark, hspace, hsymbol, htype]

end Lexeme

section

variable {k : TextCursor} {n : Numeral} {after : List Char}

/-- A suffix after a numeral that is cut off gives it its type and fits its value to the type. -/
theorem TextCursor.takes_of_suffix (hcut : n.IsCut after)
    (hnumber : Lexeme.number k.rest = Lexeme.numberType n after) {suffix : List Char}
    {type : NumberKind} (rest : List Char) (hafter : after = suffix ++ rest)
    (hmem : (suffix, type) ∈ NumberKind.typeSuffixes)
    (hsign : suffix.length = 2 → n.negative = false) :
    k.Takes (n.spelling.length + suffix.length) type
      (if type.isFloating then (spelledValue n.spelling).floated
        else (spelledValue n.spelling).truncated) := by
  apply TextCursor.takes_of_took
  rw [hnumber, hafter, Lexeme.numberType_of_suffix hmem hsign, Lexeme.typedNumber, hcut.value_eq]

/-- A number is scanned by what follows its numeral. -/
theorem TextCursor.scansNumber (hrest : k.rest = n.spelling ++ after) (hcut : n.IsCut after)
    (hnumber : Lexeme.number k.rest = Lexeme.numberType n after) :
    k.ScansNumber n.spelling after := by
  have hlength : k.rest.length = n.spelling.length + after.length := by
    rw [hrest, List.length_append]
  have hunsigned : n.spelling.head? ≠ some '-' → n.negative = false := by
    rw [ne_eq, hcut.head?_eq_iff, Bool.not_eq_true]
    exact id
  constructor
  case point =>
    intro hhead
    have hsome : n.fraction.isSome = true := by
      by_contra hnone
      exact hcut.point (Option.not_isSome_iff_eq_none.mp hnone) '.' hhead rfl
    obtain ⟨rest, rfl⟩ := List.head?_eq_some_iff.mp hhead
    refine ⟨hcut.point_mem_iff.mpr hsome, refuses_of_failed .secondPoint ?_ ?_ rfl⟩
    · rw [hnumber]
      simp [Lexeme.numberType, hsome]
    · omega
  case plain =>
    intro hends
    apply takes_of_took
    rw [hnumber, Lexeme.numberType_of_ends n hends, Lexeme.plainNumber, hcut.value_eq]
    simp only [hcut.point_mem_iff]
  case negative =>
    rintro mark rest rfl hmark hhead
    apply refuses_of_failed .negativeUnsigned _ (by omega) rfl
    rw [hnumber, Lexeme.numberType_of_mark n hmark, if_pos (hcut.head?_eq_iff.mp hhead)]
  case noSize =>
    rintro mark rfl hmark hhead
    rw [List.length_singleton] at hlength
    apply refuses_of_failed .missingIntegerType _ (by omega) rfl
    rw [hnumber, Lexeme.numberType_of_mark n hmark, hunsigned hhead]
    rfl
  case otherSize =>
    rintro mark c rest rfl hmark hhead hc
    rw [List.length_cons] at hlength
    apply refuses_of_failed (.unknownIntegerType c) _ (by omega) rfl
    rw [hnumber, Lexeme.numberType_of_mark n hmark, hunsigned hhead, Lexeme.unsignedNumber,
      IntegerSize.ofSuffix?_eq_none hc]
    rfl
  case size =>
    rintro mark c size rest rfl hmark hhead hc
    have hmem : ([mark, c], NumberKind.unsigned size) ∈ NumberKind.typeSuffixes := by
      simp only [List.mem_cons, Prod.mk.injEq, List.not_mem_nil, or_false] at hmark hc
      rcases hmark with rfl | rfl <;> rcases hc with ⟨rfl, rfl⟩ | ⟨rfl, rfl⟩ | ⟨rfl, rfl⟩ <;> decide
    exact takes_of_suffix hcut hnumber rest rfl hmem fun _ => hunsigned hhead
  case floating =>
    rintro c type rest rfl hc
    have hmem : ([c], type) ∈ NumberKind.typeSuffixes ∧ type.isFloating = true := by
      simp only [List.mem_cons, Prod.mk.injEq, List.not_mem_nil, or_false] at hc
      rcases hc with ⟨rfl, rfl⟩ | ⟨rfl, rfl⟩ | ⟨rfl, rfl⟩ | ⟨rfl, rfl⟩ <;> decide
    have htakes := takes_of_suffix hcut hnumber rest rfl hmem.1 (by simp)
    rw [if_pos hmem.2] at htakes
    exact htakes
  case integer =>
    rintro c size rest rfl hc
    have hmem : ([c], NumberKind.signed size) ∈ NumberKind.typeSuffixes := by
      simp only [List.mem_cons, Prod.mk.injEq, List.not_mem_nil, or_false] at hc
      rcases hc with ⟨rfl, rfl⟩ | ⟨rfl, rfl⟩ | ⟨rfl, rfl⟩ | ⟨rfl, rfl⟩ | ⟨rfl, rfl⟩ | ⟨rfl, rfl⟩ <;>
        decide
    exact takes_of_suffix hcut hnumber rest rfl hmem (by simp)
  case other =>
    rintro c rest rfl hspace hsymbol hc
    rw [List.length_cons] at hlength
    apply refuses_of_failed (.unknownNumberType c) _ (by omega) rfl
    rw [hnumber, Lexeme.numberType_of_other n hspace hsymbol hc]
  case kept =>
    intro hpoint
    unfold spelledValue
    rw [if_neg hpoint]
    split <;> rfl

end

/-- Reading a number at any cursor goes by the longest numeral that the text starts with there: what
follows it decides which type the number gets or which error is met, and the value is the one that
the numeral spells. -/
theorem number_scanned (k : TextCursor) :
    ∃ w after, k.rest = w ++ after ∧ IsLongestNumeral w k.rest ∧ k.ScansNumber w after := by
  have hrest := (Numeral.split_spelling k.rest).symm
  have hcut := Numeral.isCut_split k.rest
  refine ⟨_, _, hrest, ?_, TextCursor.scansNumber hrest hcut rfl⟩
  have hlongest := hcut.longest
  rw [← hrest] at hlongest
  exact hlongest

/-- With the largest margin that can be written, the error behind a number of no type is not
reported. -/
theorem number_unwritable_column :
    let step := (TextCursor.start "5x" (Text.unwritable - 1)).perform .number
    step.1 = .error (.abort .integerTooLong) ∧ ¬ ∃ e, step.1 = .error (.reported e) := by
  have hnumber : Lexeme.number "5x".toList = .failed 2 (.unknownNumberType 'x') := rfl
  have hfailed : ((TextCursor.start "5x" (Text.unwritable - 1)).perform .number).1 =
      .error (.abort .integerTooLong) := by
    show (((TextCursor.start "5x" (Text.unwritable - 1)).readLexeme
      (Lexeme.number "5x".toList)).map _ id).1 = _
    rw [hnumber]
    show Except.error (((TextCursor.start "5x" (Text.unwritable - 1)).move 2).error
      (.unknownNumberType 'x')).failure = _
    rw [TextCursor.failure_move_start _ _ (by decide),
      if_neg (Place.not_isWritable_after (by decide) (by decide))]
  refine ⟨hfailed, ?_⟩
  rw [hfailed]
  rintro ⟨e, he⟩
  cases he

end ScriptFront
