import ScriptFront.Proofs.Binary64.Rounding
import ScriptFront.Proofs.Lexing.Number

/-!
# Decimals with an integer type

A decimal that has an integer type is rounded to binary64, and the fraction of the rounded number is
dropped. So the fraction that was written is dropped with it, unless rounding has taken the decimal
for the next integer:

* `RoundsUp`: the fractions that are close enough to one;
* `Numeral.value_truncated`: the value of a decimal with an integer type;
* `tokenize_truncates`: the token of such a decimal. With at most fifteen digits in all the fraction
  is always dropped.

More digits can round up (`tokenize_truncates_seventeen_nines`).
-/

namespace ScriptFront

/-- Whether a fraction behind an integer lacks so little to one that both together are taken for the
next integer. As 53 bits are kept, this is the less the more bits the integer has. -/
def RoundsUp (n : Nat) (fraction : List Char) : Prop :=
  (10 ^ fraction.length - spelledNat fraction) * 2 ^ (54 - n.size) ≤ 10 ^ fraction.length

instance (n : Nat) (fraction : List Char) : Decidable (RoundsUp n fraction) :=
  Nat.decLe _ _

/-! ## Digits before and behind the point -/

theorem spelledNat_append (whole fraction : List Char) :
    spelledNat (whole ++ fraction) =
      spelledNat whole * 10 ^ fraction.length + spelledNat fraction := by
  rw [spelledNat, List.reverse_append, List.map_append, Nat.ofDigits_append, List.length_map,
    List.length_reverse, spelledNat, spelledNat]
  ring

theorem spelledNat_lt {digits : List Char} (h : ∀ c ∈ digits, c.isDigit = true) :
    spelledNat digits < 10 ^ digits.length := by
  rw [← Numeral.digitsValue_eq]
  exact Numeral.digitsValue_lt h

/-- The integer part of digits with a point among them. -/
theorem spelledNat_append_div {fraction : List Char} (h : ∀ c ∈ fraction, c.isDigit = true)
    (whole : List Char) :
    spelledNat (whole ++ fraction) / 10 ^ fraction.length = spelledNat whole := by
  rw [spelledNat_append, Nat.mul_comm, Nat.mul_add_div (Nat.pow_pos (by omega)),
    Nat.div_eq_of_lt (spelledNat_lt h), Nat.add_zero]

theorem isNearlyNext_append {fraction : List Char} (h : ∀ c ∈ fraction, c.isDigit = true)
    (whole : List Char) :
    Binary64.IsNearlyNext (spelledNat (whole ++ fraction)) (10 ^ fraction.length) ↔
      RoundsUp (spelledNat whole) fraction := by
  have hmod : spelledNat (whole ++ fraction) % 10 ^ fraction.length = spelledNat fraction := by
    rw [spelledNat_append, Nat.mul_comm, Nat.mul_add_mod, Nat.mod_eq_of_lt (spelledNat_lt h)]
  rw [Binary64.IsNearlyNext, hmod, spelledNat_append_div h, RoundsUp]

/-- With at most fifteen digits nothing rounds up. -/
theorem not_roundsUp {whole fraction : List Char} (hwhole : ∀ c ∈ whole, c.isDigit = true)
    (hfraction : ∀ c ∈ fraction, c.isDigit = true) (h : whole.length + fraction.length ≤ 15) :
    ¬ RoundsUp (spelledNat whole) fraction := by
  have hn := spelledNat_lt hwhole
  have hlack : 1 ≤ 10 ^ fraction.length - spelledNat fraction := by
    have hlt := spelledNat_lt hfraction
    omega
  intro hup
  have hplaces : 2 ^ (54 - (spelledNat whole).size) ≤ 10 ^ fraction.length :=
    (Nat.le_mul_of_pos_left _ hlack).trans hup
  -- the bits of both sides together are more than fifteen digits can hold
  have hbits : 2 ^ ((spelledNat whole).size - 1) ≤ 10 ^ whole.length := by
    rcases Nat.eq_zero_or_pos (spelledNat whole) with hzero | hpos
    · rw [hzero]
      exact Nat.one_le_pow _ _ (by omega)
    · have hsize : (spelledNat whole).size - 1 < (spelledNat whole).size := by
        have hsize := Nat.size_pos.mpr hpos
        omega
      exact (Nat.lt_size.mp hsize).trans hn.le
  have hmost : 2 ^ 53 ≤ 10 ^ 15 := by
    calc 2 ^ 53 ≤ 2 ^ ((54 - (spelledNat whole).size) + ((spelledNat whole).size - 1)) :=
          Nat.pow_le_pow_right Nat.two_pos (by omega)
      _ = 2 ^ (54 - (spelledNat whole).size) * 2 ^ ((spelledNat whole).size - 1) :=
          Nat.pow_add _ _ _
      _ ≤ 10 ^ fraction.length * 10 ^ whole.length := Nat.mul_le_mul hplaces hbits
      _ = 10 ^ (fraction.length + whole.length) := (Nat.pow_add _ _ _).symm
      _ ≤ 10 ^ 15 := Nat.pow_le_pow_right (by omega) (by omega)
  exact absurd hmost (by decide)

/-! ## The value of a decimal -/

/-- The value of a decimal with an integer type. -/
theorem Numeral.value_truncated {whole fraction : List Char} (hne : whole ≠ [])
    (hlength : whole.length ≤ 15) (hwhole : ∀ c ∈ whole, c.isDigit = true)
    (hfraction : ∀ c ∈ fraction, c.isDigit = true) :
    (Numeral.mk false whole (some fraction)).value.truncated =
      .int ((if RoundsUp (spelledNat whole) fraction then spelledNat whole + 1
        else spelledNat whole : Nat) : Int) := by
  have hvalue : (Numeral.mk false whole (some fraction)).value =
      .real (.ofDecimal false (spelledNat (whole ++ fraction)) (-fraction.length)) := by
    rw [value]
    dsimp only
    rw [digitsValue_eq, if_neg (by simp [hne])]
  have hsmall : spelledNat (whole ++ fraction) < 2 ^ 50 * 10 ^ fraction.length := by
    rw [← Nat.div_lt_iff_lt_mul (Nat.pow_pos (by omega)), spelledNat_append_div hfraction]
    calc spelledNat whole < 10 ^ whole.length := spelledNat_lt hwhole
      _ ≤ 10 ^ 15 := Nat.pow_le_pow_right (by omega) hlength
      _ ≤ 2 ^ 50 := by decide
  rw [hvalue, Value.truncated, Binary64.trunc?_ofDecimal hsmall, spelledNat_append_div hfraction,
    if_congr (isNearlyNext_append hfraction whole) rfl rfl]
  rfl

/-- A source that is one lexeme has one token. -/
theorem tokenize_of_read {text : List Char} {lexeme : Lexeme}
    (h : Lexeme.read text = .took text.length lexeme) (margin : Int) :
    tokenize (String.ofList text) margin =
      .ok [⟨lexeme.kind, lexeme.value, ⟨1, margin, 0, text.length⟩⟩] := by
  rw [tokenize_eq_ok_iff, String.toList_ofList, outline_of_took 0 h, List.drop_length, outline_nil]
  exact ⟨rfl, rfl⟩

/-- A decimal of an integer type is one token, and its value is the integer before the point, or the
next one if the fraction is so close to one that it rounds up. It does not round up where both have
at most fifteen digits together. -/
theorem tokenize_truncates {whole fraction suffix : List Char} {type : NumberKind}
    (hne : whole ≠ []) (hlength : whole.length ≤ 15) (hwhole : ∀ c ∈ whole, c.isDigit = true)
    (hfraction : ∀ c ∈ fraction, c.isDigit = true)
    (hsuffix : (suffix, type) ∈ NumberKind.typeSuffixes) (htype : type.isFloating = false)
    (margin : Int) :
    tokenize (String.ofList (whole ++ '.' :: (fraction ++ suffix))) margin =
        .ok [⟨.number type,
          .int ((if RoundsUp (spelledNat whole) fraction then spelledNat whole + 1
            else spelledNat whole : Nat) : Int),
          ⟨1, margin, 0, (whole ++ '.' :: (fraction ++ suffix)).length⟩⟩] ∧
      (whole.length + fraction.length ≤ 15 → ¬ RoundsUp (spelledNat whole) fraction) := by
  refine ⟨?_, not_roundsUp hwhole hfraction⟩
  let n : Numeral := ⟨false, whole, some fraction⟩
  have hplain : n.IsPlain := ⟨rfl, hne, hwhole, hfraction⟩
  have hspelling : n.spelling ++ suffix = whole ++ '.' :: (fraction ++ suffix) := by
    simp [n, Numeral.spelling]
  have hdigit : ∀ c ∈ suffix.head?, c.isDigit = false := by
    intro c hc
    have halpha := (NumberKind.isAlpha_of_mem_typeSuffixes hsuffix).2 c (List.mem_of_mem_head? hc)
    rw [Bool.eq_false_iff]
    intro hdigit
    rw [Text.not_isAlpha_of_isDigit hdigit] at halpha
    cases halpha
  -- nothing follows the suffix, so the number is the whole source
  have htaken := Lexeme.numberType_of_suffix hsuffix (n := n) (fun _ => rfl) []
  rw [List.append_nil] at htaken
  have hread : Lexeme.read (n.spelling ++ suffix) =
      .took (n.spelling ++ suffix).length (Lexeme.typedNumber n type) := by
    rw [Lexeme.read_numeral hplain hdigit (fun hnone => by cases hnone), htaken, List.length_append]
  have hvalue : (Lexeme.typedNumber n type).value = n.value.truncated := by
    rw [Lexeme.typedNumber, htype]
    rfl
  have htoken := tokenize_of_read hread margin
  rw [hspelling, hvalue, Numeral.value_truncated hne hlength hwhole hfraction] at htoken
  exact htoken

/-- Sixteen nines, of which the last one is behind the point. -/
theorem tokenize_truncates_sixteen_nines :
    tokenize "999999999999999.9Ul" 4 =
      .ok [⟨.number (.unsigned .long), .int 999999999999999, ⟨1, 4, 0, 19⟩⟩] := by
  have hdigits : ∀ n, ∀ c ∈ List.replicate n '9', c.isDigit = true := by
    intro n c hc
    rw [List.eq_of_mem_replicate hc]
    rfl
  have hsource : String.ofList (List.replicate 15 '9' ++
      '.' :: (List.replicate 1 '9' ++ ['U', 'l'])) = "999999999999999.9Ul" := by
    decide +kernel
  have hvalue : spelledNat (List.replicate 15 '9') = 999999999999999 := by decide +kernel
  have hdown : ¬ RoundsUp 999999999999999 (List.replicate 1 '9') := by decide +kernel
  have htoken := (@tokenize_truncates (List.replicate 15 '9') (List.replicate 1 '9') ['U', 'l']
    (.unsigned .long) (by decide) (by decide) (hdigits 15) (hdigits 1) (by decide) rfl 4).1
  rw [hsource, hvalue, if_neg hdown] at htoken
  exact htoken

/-- Seventeen nines behind the point are more than are kept, and round up. -/
theorem tokenize_truncates_seventeen_nines :
    tokenize "0.99999999999999999i" 0 =
        .ok [⟨.number (.signed .int), .int 1, ⟨1, 0, 0, 20⟩⟩] ∧
      spelledNat ['0'] = 0 := by
  constructor
  · decide +kernel
  · decide

end ScriptFront
