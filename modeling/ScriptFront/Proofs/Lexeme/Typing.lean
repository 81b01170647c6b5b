import Mathlib.Tactic.Ring
import ScriptFront.Proofs.Lexeme.Reading

/-!
# Values of numbers

A number that is read carries a value of its type, which is never negative and which can always be
written:

* `NumberKind.Carries`: a floating type carries a binary64 number, an integer type a natural number,
  or infinity if the numeral has a point;
* `Lexeme.carries_of_read` and `Lexeme.isWritable_of_read`: this holds of every lexeme that is read.

The reader never meets a numeral without digits, nor one with a sign, so it is enough to follow the
value of a plain numeral through the types.
-/

namespace ScriptFront

/-- Whether a number of a type, spelled by some characters, may carry a value: a floating type a
binary64 number, an integer type an integer, or infinity if the characters have a point. No value is
negative. -/
def NumberKind.Carries (type : NumberKind) (text : List Char) : Value → Prop
  | .text _ => False
  | .int n => type.isFloating = false ∧ 0 ≤ n
  | .real x => x.isNonnegative = true ∧
      (type.isFloating = true ∨ (x = .infinite false ∧ '.' ∈ text))

/-! ## Binary64 numbers without a sign -/

theorem Text.isWritable_iff {n : Int} : isWritable n = true ↔ n.natAbs < unwritable := by
  rw [isWritable, decide_eq_true_eq]

/-- A number of no more digits than can be written is below the least that cannot. -/
theorem Text.lt_unwritable {n digits : Nat} (hn : n < 10 ^ digits) (hdigits : digits ≤ digitLimit) :
    n < unwritable := by
  -- for any limit, so that the power is not evaluated
  have hpow : ∀ limit, digits ≤ limit → n < Nat.pow 10 limit := fun limit hlimit =>
    Nat.lt_of_lt_of_le hn (Nat.pow_le_pow_right (by decide) hlimit)
  unfold unwritable
  exact hpow digitLimit hdigits

namespace Binary64

theorem isNonnegative_ofParts (significand : Nat) (exponent : Int) :
    (ofParts false significand exponent).isNonnegative = true := by
  unfold ofParts
  split <;> rfl

theorem isNonnegative_ofRatio (num den : Nat) : (ofRatio false num den).isNonnegative = true := by
  unfold ofRatio
  by_cases hnum : num = 0
  · rw [if_pos hnum]
    rfl
  · rw [if_neg hnum]
    dsimp only
    split <;> exact isNonnegative_ofParts _ _

theorem isNonnegative_ofDecimal (digits : Nat) (exponent : Int) :
    (ofDecimal false digits exponent).isNonnegative = true := by
  unfold ofDecimal
  split
  · rfl
  · split
    · rfl
    · split
      · rfl
      · exact isNonnegative_ofRatio _ _

theorem isNonnegative_ofInt {n : Int} (hn : 0 ≤ n) : (ofInt n).isNonnegative = true := by
  rw [ofInt, decide_eq_false (by omega : ¬ n < 0)]
  exact isNonnegative_ofRatio _ _

/-- The integer part of a number without a sign is a natural number that can be written. -/
theorem trunc?_eq_some {x : Binary64} (hx : x.isNonnegative = true) {n : Int}
    (h : x.trunc? = some n) : 0 ≤ n ∧ Text.isWritable n = true := by
  cases x with
  | finite negative significand exponent canonical =>
    have hsign : negative = false := by simpa [isNonnegative] using hx
    have hbits : significand < 2 ^ 53 := canonical.1
    have hexponent : exponent ≤ 971 := canonical.2.2.1
    simp only [trunc?, hsign, Bool.false_eq_true, if_false, Option.some.injEq] at h
    have hlt : significand * Nat.pow 2 exponent.toNat / Nat.pow 2 (-exponent).toNat <
        10 ^ (53 + exponent.toNat) := by
      calc significand * Nat.pow 2 exponent.toNat / Nat.pow 2 (-exponent).toNat
          ≤ significand * 2 ^ exponent.toNat := Nat.div_le_self _ _
        _ < 2 ^ 53 * 2 ^ exponent.toNat :=
            Nat.mul_lt_mul_of_pos_right hbits (Nat.two_pow_pos _)
        _ = 2 ^ (53 + exponent.toNat) := (Nat.pow_add 2 53 _).symm
        _ ≤ 10 ^ (53 + exponent.toNat) := Nat.pow_le_pow_left (by decide) _
    have hdigits : 53 + exponent.toNat ≤ Text.digitLimit := by
      unfold Text.digitLimit
      omega
    rw [← h, Text.isWritable_iff, Int.natAbs_natCast]
    exact ⟨Int.natCast_nonneg _, Text.lt_unwritable hlt hdigits⟩
  | infinite negative => simp [trunc?] at h
  | nan => simp [trunc?] at h

/-- A number without a sign that has no integer part is infinite. -/
theorem trunc?_eq_none {x : Binary64} (hx : x.isNonnegative = true) (h : x.trunc? = none) :
    x = .infinite false := by
  cases x with
  | finite negative significand exponent canonical => simp [trunc?] at h
  | infinite negative => simpa [isNonnegative] using hx
  | nan => simp [isNonnegative] at hx

end Binary64

/-! ## Plain numerals -/

namespace Numeral

theorem digitsValue_lt {digits : List Char} (h : ∀ c ∈ digits, c.isDigit = true) :
    digitsValue digits < 10 ^ digits.length := by
  -- with digits before these, whose value is `init`
  have hrun : ∀ init, Nat.ofDigitChars 10 digits init < (init + 1) * 10 ^ digits.length := by
    induction digits with
    | nil =>
      intro init
      simp
    | cons c digits ih =>
      intro init
      have hc := Text.isDigit_iff.mp (h c List.mem_cons_self)
      have hnext := ih (fun d hd => h d (List.mem_cons_of_mem _ hd))
        (10 * init + (c.toNat - '0'.toNat))
      have hzero : '0'.toNat = 48 := rfl
      have hle : (10 * init + (c.toNat - '0'.toNat) + 1) * 10 ^ digits.length ≤
          (10 * (init + 1)) * 10 ^ digits.length := Nat.mul_le_mul_right _ (by omega)
      rw [Nat.ofDigitChars_cons, List.length_cons]
      calc Nat.ofDigitChars 10 digits (10 * init + (c.toNat - '0'.toNat))
          < (10 * init + (c.toNat - '0'.toNat) + 1) * 10 ^ digits.length := hnext
        _ ≤ (10 * (init + 1)) * 10 ^ digits.length := hle
        _ = (init + 1) * 10 ^ (digits.length + 1) := by ring
  have hzero := hrun 0
  rw [Nat.zero_add, Nat.one_mul] at hzero
  exact hzero

/-- A numeral with a point has it in its spelling. -/
theorem point_mem_spelling {n : Numeral} (h : n.fraction.isSome = true) : '.' ∈ n.spelling := by
  obtain ⟨digits, hdigits⟩ := Option.isSome_iff_exists.mp h
  simp [spelling, hdigits]

/-- Without a point, a plain numeral is a natural number that can be written. -/
theorem IsPlain.exists_int {n : Numeral} (h : n.IsPlain) (hnone : n.fraction = none) :
    ∃ k : Nat, n.value = .int k ∧ k < Text.unwritable := by
  obtain ⟨hsign, -, hwhole, -⟩ := h
  simp only [value, hnone, hsign]
  split
  · exact ⟨0, rfl, Text.lt_unwritable (show 0 < 10 ^ 0 by decide) (Nat.zero_le _)⟩
  · rename_i hlimit
    simp only [Bool.or_eq_true, decide_eq_true_eq, not_or, Nat.not_lt] at hlimit
    refine ⟨digitsValue n.whole, rfl, ?_⟩
    exact Text.lt_unwritable (digitsValue_lt hwhole) hlimit.2

/-- With a point, a plain numeral is a binary64 number without a sign. -/
theorem IsPlain.exists_real {n : Numeral} (h : n.IsPlain) (hsome : n.fraction.isSome = true) :
    ∃ x, n.value = .real x ∧ x.isNonnegative = true := by
  obtain ⟨hsign, hne, -, -⟩ := h
  obtain ⟨digits, hdigits⟩ := Option.isSome_iff_exists.mp hsome
  have hempty : n.whole.isEmpty = false := by simpa using hne
  simp only [value, hdigits, hempty, hsign, Bool.false_and]
  rw [if_neg Bool.false_ne_true]
  exact ⟨_, rfl, Binary64.isNonnegative_ofDecimal _ _⟩

end Numeral

/-! ## Numbers with a type -/

namespace Lexeme

/-- What is read after a numeral only gives it a type. -/
theorem eq_of_numberType {n : Numeral} {rest : List Char} {width : Nat} {lexeme : Lexeme}
    (h : numberType n rest = .took width lexeme) :
    lexeme = plainNumber n ∨ ∃ type, lexeme = typedNumber n type := by
  unfold numberType at h
  split at h
  · simp only [Reading.took.injEq] at h
    exact .inl h.2.symm
  · dsimp only at h
    split at h
    · cases h
    · split at h
      · split at h
        · cases h
        · unfold unsignedNumber at h
          split at h
          · cases h
          · split at h
            · simp only [Reading.took.injEq] at h
              exact .inr ⟨_, h.2.symm⟩
            · cases h
      · split at h
        · simp only [Reading.took.injEq] at h
          exact .inl h.2.symm
        · split at h
          · simp only [Reading.took.injEq] at h
            exact .inr ⟨_, h.2.symm⟩
          · cases h

/-- A lexeme that is read is a text, or a plain numeral with or without a type. -/
theorem value_of_read {text : List Char} {width : Nat} {lexeme : Lexeme}
    (h : read text = .took width lexeme) :
    ((∀ type, lexeme.kind ≠ .number type) ∧ ∃ s, lexeme.value = .text s) ∨
      ∃ n : Numeral, n.IsPlain ∧ n.spelling <+: text ∧
        (lexeme = plainNumber n ∨ ∃ type, lexeme = typedNumber n type) := by
  cases text with
  | nil => cases h
  | cons c rest =>
    by_cases hdigit : c.isDigit = true
    · right
      rw [read_of_isDigit hdigit, number] at h
      obtain ⟨hplain, -, -⟩ := Numeral.isPlain_split rest hdigit
      exact ⟨_, hplain, ⟨_, Numeral.split_spelling (c :: rest)⟩, eq_of_numberType h⟩
    · left
      unfold read at h
      dsimp only at h
      split at h
      · rw [literal] at h
        split at h
        · cases h
          exact ⟨by simp, _, rfl⟩
        · cases h
      · split at h
        · cases h
          exact ⟨by simp, _, rfl⟩
        · split at h
          · cases h
            exact ⟨by simp [ofSymbol], _, rfl⟩
          · cases h

/-- A plain numeral carries a value of the type that its point gives it. -/
theorem carries_plainNumber {n : Numeral} (hn : n.IsPlain) (text : List Char) :
    ∃ type, (plainNumber n).kind = .number type ∧ type.Carries text (plainNumber n).value ∧
      (plainNumber n).value.isWritable = true := by
  refine ⟨_, rfl, ?_⟩
  show NumberKind.Carries _ text n.value ∧ n.value.isWritable = true
  cases hf : n.fraction with
  | none =>
    obtain ⟨k, hvalue, hk⟩ := hn.exists_int hf
    rw [hvalue]
    exact ⟨⟨rfl, Int.natCast_nonneg k⟩, Text.isWritable_iff.mpr hk⟩
  | some digits =>
    obtain ⟨x, hvalue, hx⟩ := hn.exists_real (by rw [hf]; rfl)
    rw [hvalue]
    exact ⟨⟨hx, .inl rfl⟩, rfl⟩

/-- A plain numeral with a type carries a value of that type. -/
theorem carries_typedNumber {n : Numeral} (hn : n.IsPlain) {text : List Char}
    (htext : n.spelling <+: text) (type : NumberKind) :
    type.Carries text (typedNumber n type).value ∧
      (typedNumber n type).value.isWritable = true := by
  by_cases hfloating : type.isFloating = true
  · -- a floating type takes an integer for the nearest binary64 number
    have hvalue : (typedNumber n type).value = n.value.floated := if_pos hfloating
    rw [hvalue]
    by_cases hpoint : n.fraction.isSome = true
    · obtain ⟨x, hreal, hx⟩ := hn.exists_real hpoint
      rw [hreal]
      exact ⟨⟨hx, .inl hfloating⟩, rfl⟩
    · obtain ⟨k, hint, -⟩ := hn.exists_int (by simpa using hpoint)
      rw [hint]
      exact ⟨⟨Binary64.isNonnegative_ofInt (Int.natCast_nonneg k), .inl hfloating⟩, rfl⟩
  · -- an integer type drops the fraction of a number that is not infinite
    have hvalue : (typedNumber n type).value = n.value.truncated := if_neg hfloating
    rw [hvalue]
    rw [Bool.not_eq_true] at hfloating
    by_cases hpoint : n.fraction.isSome = true
    · obtain ⟨x, hreal, hx⟩ := hn.exists_real hpoint
      rw [hreal, Value.truncated]
      cases htrunc : x.trunc? with
      | some m =>
        obtain ⟨hm, hwritable⟩ := Binary64.trunc?_eq_some hx htrunc
        exact ⟨⟨hfloating, hm⟩, hwritable⟩
      | none =>
        have hmem : '.' ∈ text := htext.subset (Numeral.point_mem_spelling hpoint)
        exact ⟨⟨hx, .inr ⟨Binary64.trunc?_eq_none hx htrunc, hmem⟩⟩, rfl⟩
    · obtain ⟨k, hint, hk⟩ := hn.exists_int (by simpa using hpoint)
      rw [hint]
      exact ⟨⟨hfloating, Int.natCast_nonneg k⟩, Text.isWritable_iff.mpr hk⟩

/-- A number that is read carries a value of its type. -/
theorem carries_of_read {text : List Char} {width : Nat} {lexeme : Lexeme}
    (h : read text = .took width lexeme) {type : NumberKind} (htype : lexeme.kind = .number type) :
    type.Carries text lexeme.value := by
  rcases value_of_read h with ⟨hkind, -⟩ | ⟨n, hn, hprefix, rfl | ⟨other, rfl⟩⟩
  · exact absurd htype (hkind type)
  · obtain ⟨other, hother, hcarries, -⟩ := carries_plainNumber hn text
    rw [hother, Kind.number.injEq] at htype
    rw [← htype]
    exact hcarries
  · obtain rfl : other = type := Kind.number.inj htype
    exact (carries_typedNumber hn hprefix other).1

/-- The value of a lexeme that is read can be written. -/
theorem isWritable_of_read {text : List Char} {width : Nat} {lexeme : Lexeme}
    (h : read text = .took width lexeme) : lexeme.value.isWritable = true := by
  rcases value_of_read h with ⟨-, s, hs⟩ | ⟨n, hn, hprefix, rfl | ⟨type, rfl⟩⟩
  · rw [hs]
    rfl
  · obtain ⟨type, -, -, hwritable⟩ := carries_plainNumber hn text
    exact hwritable
  · exact (carries_typedNumber hn hprefix type).2

end Lexeme

end ScriptFront
