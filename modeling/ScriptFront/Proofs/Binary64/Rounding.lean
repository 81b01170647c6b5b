import Mathlib.Algebra.Order.Field.Power
import Mathlib.Algebra.Order.Ring.Rat
import Mathlib.Data.Nat.Size
import Mathlib.Tactic.FieldSimp
import Mathlib.Tactic.Positivity
import Mathlib.Tactic.Ring
import ScriptFront.Binary64.Basic

/-!
# The integer part of a rounded ratio

A ratio is rounded to binary64 before its integer part is taken, so a ratio right below an integer
may be taken for it:

* `roundHalfEven_lt_iff` and its companions say what rounding does to bounds;
* `Keeps`, `exists_keeps`: how many places are kept behind the binary point;
* `trunc?_ofRatio`, `trunc?_ofDecimal`: the integer part of a rounded ratio or decimal is its own
  integer part, or one more if the ratio is nearly there (`IsNearlyNext`).
-/

namespace ScriptFront

namespace Binary64

/-! ## Rounding to a natural number -/

/-- Rounding does not go below the quotient, and at most one beyond it. -/
theorem roundHalfEven_bounds (num den : Nat) :
    num / den ≤ roundHalfEven num den ∧ roundHalfEven num den ≤ num / den + 1 := by
  unfold roundHalfEven
  dsimp only
  split
  · omega
  · split <;> omega

/-- Rounding does not go below a lower bound. -/
theorem le_roundHalfEven {num den t : Nat} (hden : 0 < den) (h : t * den ≤ num) :
    t ≤ roundHalfEven num den :=
  ((Nat.le_div_iff_mul_le hden).mpr h).trans (roundHalfEven_bounds num den).1

/-- Rounding does not go beyond an upper bound. -/
theorem roundHalfEven_le {num den t : Nat} (hden : 0 < den) (h : num ≤ t * den) :
    roundHalfEven num den ≤ t := by
  have hquotient : num / den ≤ t := Nat.div_le_of_le_mul (by rw [Nat.mul_comm]; exact h)
  rcases Nat.lt_or_eq_of_le hquotient with hlt | heq
  · have hround := (roundHalfEven_bounds num den).2
    omega
  · -- the ratio is the bound itself, and nothing is left to round
    have hdiv := Nat.div_add_mod num den
    rw [heq, Nat.mul_comm] at hdiv
    unfold roundHalfEven
    dsimp only
    rw [if_pos (by omega)]
    exact hquotient

/-- A ratio is rounded to less than an even number if it is closer to the number before it. -/
theorem roundHalfEven_lt_iff {num den t : Nat} (hden : 0 < den) (ht : t % 2 = 0) :
    roundHalfEven num den < t ↔ 2 * num + den < 2 * (t * den) := by
  have hdiv := Nat.div_add_mod num den
  have hrest := Nat.mod_lt num hden
  rcases Nat.lt_or_ge (num / den) t with hlt | hge
  · rcases Nat.lt_or_ge (num / den + 1) t with hfar | hnear
    · have hround := (roundHalfEven_bounds num den).2
      have hbound : (num / den + 2) * den ≤ t * den := Nat.mul_le_mul_right den hfar
      rw [Nat.add_mul, Nat.mul_comm (num / den)] at hbound
      exact ⟨fun _ => by omega, fun _ => by omega⟩
    · -- the quotient is odd, so a tie goes up
      obtain rfl : t = num / den + 1 := by omega
      rw [Nat.add_mul, Nat.one_mul, Nat.mul_comm (num / den)]
      unfold roundHalfEven
      dsimp only
      split
      · exact ⟨fun _ => by omega, fun _ => by omega⟩
      · split <;> exact ⟨fun _ => by omega, fun _ => by omega⟩
  · have hle : t * den ≤ num := (Nat.le_div_iff_mul_le hden).mp hge
    have hround := le_roundHalfEven hden hle
    exact ⟨fun _ => by omega, fun _ => by omega⟩

/-! ## The last bit that is kept -/

theorem zpow_two_eq (k : Int) : (2 : ℚ) ^ k = 2 ^ k.toNat / 2 ^ (-k).toNat := by
  have hk : k = (k.toNat : Int) - ((-k).toNat : Int) := by omega
  conv_lhs => rw [hk]
  rw [zpow_sub₀ two_ne_zero, zpow_natCast, zpow_natCast]

theorem reaches_iff {num den : Nat} (hden : 0 < den) (k : Int) :
    reaches num den k = true ↔ (2 : ℚ) ^ k ≤ num / den := by
  have hpos : (0 : ℚ) < den := by exact_mod_cast hden
  rw [reaches, decide_eq_true_eq, zpow_two_eq, div_le_div_iff₀ (by positivity) hpos,
    Nat.pow_eq, Nat.pow_eq, Nat.mul_comm den]
  exact_mod_cast Iff.rfl

/-- The logarithms of the two numbers give that of the ratio, up to one. -/
theorem zpow_log2_bounds {num den : Nat} (hnum : 0 < num) (hden : 0 < den) :
    (2 : ℚ) ^ ((num.log2 : Int) - den.log2 - 1) ≤ num / den ∧
      (num / den : ℚ) < 2 ^ ((num.log2 : Int) - den.log2 + 1) := by
  have hpos : (0 : ℚ) < den := by exact_mod_cast hden
  have hnumLow : (2 : ℚ) ^ num.log2 ≤ num := by
    exact_mod_cast Nat.log2_self_le hnum.ne'
  have hnumHigh : (num : ℚ) < 2 ^ (num.log2 + 1) := by exact_mod_cast Nat.lt_log2_self
  have hdenLow : (2 : ℚ) ^ den.log2 ≤ den := by
    exact_mod_cast Nat.log2_self_le hden.ne'
  have hdenHigh : (den : ℚ) < 2 ^ (den.log2 + 1) := by exact_mod_cast Nat.lt_log2_self
  constructor
  · calc (2 : ℚ) ^ ((num.log2 : Int) - den.log2 - 1)
        = 2 ^ num.log2 / 2 ^ (den.log2 + 1) := by
          rw [← zpow_natCast, ← zpow_natCast, ← zpow_sub₀ two_ne_zero]
          congr 1
          omega
      _ ≤ num / den := div_le_div₀ (by positivity) hnumLow hpos hdenHigh.le
  · calc (num / den : ℚ) < 2 ^ (num.log2 + 1) / 2 ^ den.log2 :=
          div_lt_div₀ hnumHigh hdenLow (by positivity) (by positivity)
      _ = 2 ^ ((num.log2 : Int) - den.log2 + 1) := by
          rw [← zpow_natCast, ← zpow_natCast, ← zpow_sub₀ two_ne_zero]
          congr 1
          omega

/-- The exponent of the last bit is 52 below that of the first, but not below the least one. -/
theorem exists_lastPlace {num den : Nat} (hnum : 0 < num) (hden : 0 < den) :
    ∃ k, lastPlace num den = max (k - 52) (-1074) ∧
      (2 : ℚ) ^ k ≤ num / den ∧ (num / den : ℚ) < 2 ^ (k + 1) := by
  obtain ⟨hlow, hhigh⟩ := zpow_log2_bounds hnum hden
  unfold lastPlace
  dsimp only
  generalize (num.log2 : Int) - den.log2 = k at *
  by_cases hreaches : reaches num den k = true
  · exact ⟨k, by rw [if_pos hreaches], (reaches_iff hden k).mp hreaches, hhigh⟩
  · refine ⟨k - 1, by rw [if_neg hreaches]; congr 1; omega, hlow, ?_⟩
    rw [reaches_iff hden, not_le] at hreaches
    rw [Int.sub_add_cancel]
    exact hreaches

/-- What is known of the places that a ratio keeps behind the binary point: its significand has 53
bits, and less only if there is no room for more places. -/
structure Keeps (num den places : Nat) : Prop where
  three_le : 3 ≤ places
  le_most : places ≤ 1074
  scaled_lt : num * 2 ^ places < 2 ^ 53 * den
  le_scaled : places = 1074 ∨ 2 ^ 52 * den ≤ num * 2 ^ places

/-- A ratio below `2^50` keeps places behind the binary point. -/
theorem exists_keeps {num den : Nat} (hnum : 0 < num) (hden : 0 < den)
    (hsmall : num < 2 ^ 50 * den) :
    ∃ places : Nat, lastPlace num den = -places ∧ Keeps num den places := by
  obtain ⟨k, hplace, hlow, hhigh⟩ := exists_lastPlace hnum hden
  have hpos : (0 : ℚ) < den := by exact_mod_cast hden
  have hratio : (num / den : ℚ) < 2 ^ (50 : Int) := by
    rw [div_lt_iff₀ hpos]
    exact_mod_cast hsmall
  have hk : k < 50 := (zpow_lt_zpow_iff_right₀ one_lt_two).mp (hlow.trans_lt hratio)
  obtain ⟨places, hplaces⟩ : ∃ places : Nat, lastPlace num den = -places :=
    ⟨(-lastPlace num den).toNat, by omega⟩
  -- both bounds compare the exponent of the scaled ratio with those of the format
  have hscale : (num * 2 ^ places : ℚ) = num / den * 2 ^ (places : Int) * den := by
    rw [zpow_natCast]
    field_simp
  refine ⟨places, hplaces, by omega, by omega, ?_, ?_⟩
  · have hlt : (num * 2 ^ places : ℚ) < 2 ^ (53 : Int) * den := by
      calc (num * 2 ^ places : ℚ) = num / den * 2 ^ (places : Int) * den := hscale
        _ < 2 ^ (k + 1) * 2 ^ (places : Int) * den := by gcongr
        _ = 2 ^ (k + 1 + places) * den := by rw [zpow_add₀ two_ne_zero (k + 1)]
        _ ≤ 2 ^ (53 : Int) * den := by
          gcongr
          · exact one_le_two
          · omega
    exact_mod_cast hlt
  · rcases Nat.lt_or_ge places 1074 with hless | hge
    · right
      have hle : (2 ^ (52 : Int) * den : ℚ) ≤ num * 2 ^ places := by
        calc (2 ^ (52 : Int) * den : ℚ) = 2 ^ k * 2 ^ (places : Int) * den := by
              rw [← zpow_add₀ two_ne_zero]
              congr 2
              omega
          _ ≤ num / den * 2 ^ (places : Int) * den := by gcongr
          _ = num * 2 ^ places := hscale.symm
      exact_mod_cast hle
    · left
      omega

/-! ## Ratios that are nearly the next number -/

/-- Whether a ratio lacks at most half of a last place to the next natural number. The last place of
a number is the 53rd bit from its first one, and of a number below one the 53rd bit behind the
point. -/
def IsNearlyNext (num den : Nat) : Prop :=
  (den - num % den) * 2 ^ (54 - (num / den).size) ≤ den

instance (num den : Nat) : Decidable (IsNearlyNext num den) :=
  Nat.decLe _ _

/-- A ratio below one half is not nearly one, however small the last place. -/
theorem lt_lack_mul_two_pow {num den : Nat} (h : 2 * num < den) (k : Nat) :
    den < (den - num) * 2 ^ (k + 1) := by
  calc den < (den - num) * 2 := by omega
    _ ≤ (den - num) * 2 ^ (k + 1) := by
      apply Nat.mul_le_mul_left
      exact Nat.le_self_pow (Nat.succ_ne_zero k) 2

theorem not_isNearlyNext_of_half {num den : Nat} (h : 2 * num < den) : ¬ IsNearlyNext num den := by
  have hlt : num < den := by omega
  rw [IsNearlyNext, Nat.div_eq_of_lt hlt, Nat.mod_eq_of_lt hlt, Nat.not_le]
  exact lt_lack_mul_two_pow h 53

theorem div_scaled_le (num den places : Nat) :
    num / den * 2 ^ places * den ≤ num * 2 ^ places := by
  calc num / den * 2 ^ places * den = num / den * den * 2 ^ places := by ring
    _ ≤ num * 2 ^ places := Nat.mul_le_mul_right _ (Nat.div_mul_le_self num den)

namespace Keeps

variable {num den places : Nat}

/-- A ratio below one keeps 53 places, unless it is below one half. -/
theorem half_or_eq (h : Keeps num den places) (hlt : num < den) :
    2 * num < den ∨ places = 53 := by
  rcases Nat.lt_or_ge places 54 with hfew | hmany
  · right
    have hbits := h.le_scaled.resolve_left (by omega)
    have hless : 2 ^ 52 * den < 2 ^ places * den := by
      calc 2 ^ 52 * den ≤ num * 2 ^ places := hbits
        _ < den * 2 ^ places := Nat.mul_lt_mul_of_pos_right hlt (Nat.two_pow_pos _)
        _ = 2 ^ places * den := Nat.mul_comm _ _
    have hplaces : 52 < places :=
      (Nat.pow_lt_pow_iff_right Nat.one_lt_two).mp (Nat.lt_of_mul_lt_mul_right hless)
    omega
  · left
    have hless : 2 ^ 53 * (2 * num) < 2 ^ 53 * den := by
      calc 2 ^ 53 * (2 * num) = num * 2 ^ 54 := by ring
        _ ≤ num * 2 ^ places := Nat.mul_le_mul_left _ (Nat.pow_le_pow_right Nat.two_pos hmany)
        _ < 2 ^ 53 * den := h.scaled_lt
    exact Nat.lt_of_mul_lt_mul_left hless

/-- The bits that are not behind the point are those of the integer part. -/
theorem size_add (h : Keeps num den places) (hden : 0 < den) (hpos : 0 < num / den) :
    (num / den).size + places = 53 := by
  have hupper : num / den * 2 ^ places < 2 ^ 53 :=
    Nat.lt_of_mul_lt_mul_right ((div_scaled_le num den places).trans_lt h.scaled_lt)
  have hplaces : places < 53 := by
    apply (Nat.pow_lt_pow_iff_right Nat.one_lt_two).mp
    exact Nat.lt_of_le_of_lt (Nat.le_mul_of_pos_left _ hpos) hupper
  have hbits := h.le_scaled.resolve_left (by omega)
  have hsize : (num / den).size ≤ 53 - places := by
    rw [Nat.size_le]
    apply Nat.lt_of_mul_lt_mul_right (a := 2 ^ places)
    rw [← Nat.pow_add, Nat.sub_add_cancel hplaces.le]
    exact hupper
  have hlower : 2 ^ (52 - places) ≤ num / den := by
    rw [Nat.le_div_iff_mul_le hden]
    apply Nat.le_of_mul_le_mul_right (c := 2 ^ places) _ (Nat.two_pow_pos places)
    calc 2 ^ (52 - places) * den * 2 ^ places
        = 2 ^ (52 - places) * 2 ^ places * den := by ring
      _ = 2 ^ 52 * den := by rw [← Nat.pow_add, Nat.sub_add_cancel (by omega)]
      _ ≤ num * 2 ^ places := hbits
  have hsize' := Nat.lt_size.mpr hlower
  omega

/-- Half of the last place, as the places that are kept give it. -/
theorem isNearlyNext_iff (h : Keeps num den places) (hden : 0 < den) :
    IsNearlyNext num den ↔ (den - num % den) * 2 ^ (places + 1) ≤ den := by
  rcases Nat.eq_zero_or_pos (num / den) with hzero | hpos
  · have hlt : num < den := by
      rw [Nat.div_eq_zero_iff] at hzero
      omega
    rcases h.half_or_eq hlt with hhalf | rfl
    · have hlack := lt_lack_mul_two_pow hhalf places
      rw [Nat.mod_eq_of_lt hlt]
      exact iff_of_false (not_isNearlyNext_of_half hhalf) (Nat.not_le.mpr hlack)
    · rw [IsNearlyNext, hzero, Nat.size_zero]
  · have hexponent : 54 - (num / den).size = places + 1 := by
      have hsize := h.size_add hden hpos
      omega
    rw [IsNearlyNext, hexponent]

/-- The significand lies between those of the integer part and of the next number, and it is the
latter if the ratio is nearly there. -/
theorem roundHalfEven_div (h : Keeps num den places) (hden : 0 < den) :
    roundHalfEven (num * 2 ^ places) den / 2 ^ places =
      if IsNearlyNext num den then num / den + 1 else num / den := by
  have hscaled : (num / den + 1) * 2 ^ places * den =
      num * 2 ^ places + (den - num % den) * 2 ^ places := by
    have hnext : num + (den - num % den) = (num / den + 1) * den := by
      have hdiv := Nat.div_add_mod num den
      have hrest := Nat.mod_lt num hden
      rw [Nat.add_mul, Nat.one_mul, Nat.mul_comm (num / den)]
      omega
    rw [← Nat.add_mul, hnext]
    ring
  have hlower : num / den * 2 ^ places ≤ roundHalfEven (num * 2 ^ places) den :=
    le_roundHalfEven hden (div_scaled_le num den places)
  have hupper : roundHalfEven (num * 2 ^ places) den ≤ (num / den + 1) * 2 ^ places :=
    roundHalfEven_le hden (by omega)
  -- the significand of the next number is even, so a tie goes to it
  have heven : (num / den + 1) * 2 ^ places % 2 = 0 := by
    obtain ⟨k, hk⟩ : ∃ k, places = k + 1 := ⟨places - 1, by have hthree := h.three_le; omega⟩
    rw [hk, Nat.pow_succ, ← Nat.mul_assoc, Nat.mul_mod_left]
  have hless : roundHalfEven (num * 2 ^ places) den < (num / den + 1) * 2 ^ places ↔
      ¬ IsNearlyNext num den := by
    have hdouble : (den - num % den) * 2 ^ (places + 1) = 2 * ((den - num % den) * 2 ^ places) := by
      ring
    rw [roundHalfEven_lt_iff hden heven, h.isNearlyNext_iff hden, hscaled, hdouble]
    omega
  by_cases hnear : IsNearlyNext num den
  · have heq : roundHalfEven (num * 2 ^ places) den = (num / den + 1) * 2 ^ places := by
      have hnot := mt hless.mp (not_not.mpr hnear)
      omega
    rw [if_pos hnear, heq, Nat.mul_div_cancel _ (Nat.two_pow_pos places)]
  · rw [if_neg hnear, Nat.div_eq_of_lt_le hlower (hless.mpr hnear)]

end Keeps

/-! ## The integer part -/

theorem trunc?_zero : (zero false).trunc? = some 0 := by
  simp only [zero, trunc?, Nat.zero_mul, Nat.zero_div]
  rfl

/-- The integer part of a number with some places behind the binary point. -/
theorem trunc?_ofParts {significand places : Nat} (h : Canonical significand (-places)) :
    (ofParts false significand (-places)).trunc? =
      some ((significand / 2 ^ places : Nat) : Int) := by
  rw [ofParts, dif_pos h, trunc?]
  simp only [neg_neg, Int.toNat_neg_natCast, Int.toNat_natCast, Nat.pow_eq, Nat.pow_zero,
    Nat.mul_one, Bool.false_eq_true, if_false]

/-- The integer part of a rounded ratio is its significand without the places that are kept. -/
theorem trunc?_ofRatio_of_keeps {num den places : Nat} (hnum : 0 < num) (hden : 0 < den)
    (hplace : lastPlace num den = -places) (h : Keeps num den places) :
    (ofRatio false num den).trunc? =
      some ((roundHalfEven (num * 2 ^ places) den / 2 ^ places : Nat) : Int) := by
  have hthree := h.three_le
  have hmost := h.le_most
  have hupper := roundHalfEven_le hden h.scaled_lt.le
  have hlower := h.le_scaled.imp_right (le_roundHalfEven hden)
  rw [ofRatio, if_neg hnum.ne']
  simp only [hplace, neg_neg, Int.toNat_neg_natCast, Int.toNat_natCast, Nat.pow_eq, Nat.pow_zero,
    Nat.mul_one]
  -- of the significand only its bounds matter from here on
  generalize roundHalfEven (num * 2 ^ places) den = significand at *
  by_cases hcarry : significand = 2 ^ 53
  · -- the carry takes a bit off the significand and leaves one place less
    have hexponent : -(places : Int) + 1 = -((places - 1 : Nat) : Int) := by omega
    have hcanonical : Canonical (2 ^ 52) (-((places - 1 : Nat) : Int)) := by
      unfold Canonical
      simp only [Nat.pow_eq]
      omega
    have hhalf : 2 ^ 53 / 2 ^ places = 2 ^ 52 / 2 ^ (places - 1) := by
      have hpow : 2 ^ places = 2 * 2 ^ (places - 1) := by
        rw [← Nat.pow_succ', Nat.succ_eq_add_one, Nat.sub_add_cancel (by omega)]
      rw [hpow]
      exact Nat.mul_div_mul_left (2 ^ 52) _ Nat.two_pos
    rw [if_pos hcarry, hexponent, trunc?_ofParts hcanonical, hcarry, hhalf]
  · have hcanonical : Canonical significand (-places) := by
      unfold Canonical
      simp only [Nat.pow_eq]
      omega
    rw [if_neg hcarry, trunc?_ofParts hcanonical]

/-- The integer part of the number that is nearest to a ratio is that of the ratio, or the next
number if the ratio is nearly there. -/
theorem trunc?_ofRatio {num den : Nat} (hden : 0 < den) (hsmall : num < 2 ^ 50 * den) :
    (ofRatio false num den).trunc? =
      some ((if IsNearlyNext num den then num / den + 1 else num / den : Nat) : Int) := by
  rcases Nat.eq_zero_or_pos num with rfl | hnum
  · rw [if_neg (not_isNearlyNext_of_half (by omega)), Nat.zero_div, ofRatio, if_pos rfl,
      trunc?_zero]
    rfl
  · obtain ⟨places, hplace, hkeeps⟩ := exists_keeps hnum hden hsmall
    rw [trunc?_ofRatio_of_keeps hnum hden hplace hkeeps, hkeeps.roundHalfEven_div hden]

/-- The same of a decimal. -/
theorem trunc?_ofDecimal {digits places : Nat} (hsmall : digits < 2 ^ 50 * 10 ^ places) :
    (ofDecimal false digits (-places)).trunc? =
      some ((if IsNearlyNext digits (10 ^ places) then digits / 10 ^ places + 1
        else digits / 10 ^ places : Nat) : Int) := by
  have hden : 0 < 10 ^ places := Nat.pow_pos (by omega)
  unfold ofDecimal
  split
  · rename_i hdigits
    rw [← trunc?_ofRatio hden hsmall, hdigits, ofRatio, if_pos rfl]
  · rename_i hdigits
    rw [if_neg]
    · split
      · -- a decimal that is told from its exponent is below one half
        rename_i htiny
        have hhalf : 2 * digits < 10 ^ places := by
          calc 2 * digits < 2 * 2 ^ (digits.log2 + 1) := by
                have hlog := Nat.lt_log2_self (n := digits)
                omega
            _ = 2 ^ (digits.log2 + 2) := by ring
            _ ≤ 2 ^ (3 * places) := Nat.pow_le_pow_right Nat.two_pos (by omega)
            _ = 8 ^ places := by rw [Nat.pow_mul]
            _ ≤ 10 ^ places := Nat.pow_le_pow_left (by omega) places
        rw [if_neg (not_isNearlyNext_of_half hhalf), Nat.div_eq_of_lt (by omega), trunc?_zero]
        rfl
      · rw [neg_neg, Int.toNat_neg_natCast, Int.toNat_natCast, Nat.pow_eq, Nat.pow_eq,
          Nat.pow_zero, Nat.mul_one, trunc?_ofRatio hden hsmall]
    · -- without a fraction there are too few digits to be out of range
      rintro ⟨hnonneg, hhuge⟩
      obtain rfl : places = 0 := by omega
      have hlog : digits.log2 < 50 := (Nat.log2_lt hdigits).mpr (by omega)
      omega

end Binary64

end ScriptFront
