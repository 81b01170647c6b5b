import Mathlib.Data.Nat.Digits.Defs
import ScriptFront.Proofs.Lexeme.Shape
import ScriptFront.Report.Json

/-!
# JSON texts can be told apart

JSON texts are written one behind the other, so it is not enough that different values have
different texts: none may be taken for the beginning of another one. `Apart` says so of two values,
and it is passed on from parts to wholes:

* `apart_ofInt`: integers. Only here does it matter what stands behind, which is never a digit;
* `Spelt`, `Spelt.append_inj`: the characters of strings, each with its own escape. `apart_string`:
  strings;
* `bracketed_append_inj`: items in brackets, and so arrays and objects (`apart_array`,
  `object_append_inj`).
-/

namespace ScriptFront

namespace Text

/-- Whether a number that stands in front of a text has its last digit there. -/
def EndsNumber (rest : List Char) : Prop :=
  ∀ c ∈ rest.head?, c.isDigit = false

theorem endsNumber_nil : EndsNumber [] := by
  intro c hc
  cases hc

theorem endsNumber_cons {c : Char} (hc : c.isDigit = false) (rest : List Char) :
    EndsNumber (c :: rest) := by
  intro d hd
  cases hd
  exact hc

/-- Whether the texts of two values can be told apart, and each of them from what stands behind. -/
def Apart {α : Type} (write : α → List Char) (a b : α) : Prop :=
  ∀ r s, EndsNumber r → EndsNumber s → write a ++ r = write b ++ s → a = b ∧ r = s

namespace Apart

variable {α : Type} {write : α → List Char} {a b : α}

theorem refl (write : α → List Char) (a : α) : Apart write a a :=
  fun _ _ _ _ h => ⟨rfl, List.append_cancel_left h⟩

/-- Values that are told apart have different texts. -/
theorem eq_of_write_eq (h : Apart write a b) (hwrite : write a = write b) : a = b :=
  (h [] [] endsNumber_nil endsNumber_nil (by rw [hwrite])).1

/-- The texts themselves are told apart. -/
theorem texts (h : Apart write a b) : Apart id (write a) (write b) := by
  intro r s hr hs happend
  obtain ⟨rfl, hrest⟩ := h r s hr hs happend
  exact ⟨rfl, hrest⟩

end Apart

/-! ## Numbers -/

theorem isDigit_of_mem_ofNat {c : Char} {n : Nat} (h : c ∈ ofNat n) : c.isDigit = true :=
  Nat.isDigit_of_mem_toDigits (by decide) (by decide) h

theorem apart_ofNat (m n : Nat) : Apart ofNat m n := by
  intro r s hr hs h
  -- what stands behind has no digit in front, so the numbers are the runs of digits
  have hdigits : ofNat m = ofNat n := by
    have hrun := congrArg (List.takeWhile Char.isDigit) h
    rwa [takeWhile_run (fun _ => isDigit_of_mem_ofNat) hr,
      takeWhile_run (fun _ => isDigit_of_mem_ofNat) hs] at hrun
  have hvalue := congrArg (Nat.ofDigitChars 10 · 0) hdigits
  simp only [ofNat, Nat.ofDigitChars_ten_toDigits] at hvalue
  rw [hdigits] at h
  exact ⟨hvalue, List.append_cancel_left h⟩

/-- A natural number starts with a digit. -/
theorem ofNat_append_ne {c : Char} (hc : c.isDigit = false) (n : Nat) (r s : List Char) :
    ofNat n ++ r ≠ c :: s := by
  intro h
  obtain ⟨d, digits, hcons⟩ := List.exists_cons_of_ne_nil (Nat.toDigits_ne_nil (n := n) (b := 10))
  have hd : d.isDigit = true := by
    apply isDigit_of_mem_ofNat (n := n)
    rw [ofNat, hcons]
    exact List.mem_cons_self
  rw [ofNat, hcons] at h
  rw [(List.cons.inj h).1, hc] at hd
  cases hd

/-- An integer starts with a digit or with its sign. -/
theorem ofInt_append_ne {c : Char} (hc : c.isDigit = false) (hsign : c ≠ '-') (n : Int)
    (r s : List Char) : ofInt n ++ r ≠ c :: s := by
  unfold ofInt
  split
  · intro h
    exact hsign (List.cons.inj h).1.symm
  · exact ofNat_append_ne hc _ _ _

theorem apart_ofInt (m n : Int) : Apart ofInt m n := by
  intro r s hr hs h
  unfold ofInt at h
  split at h <;> split at h
  · obtain ⟨habs, hrest⟩ := apart_ofNat _ _ r s hr hs (List.cons.inj h).2
    exact ⟨by omega, hrest⟩
  · exact absurd h.symm (ofNat_append_ne rfl _ _ _)
  · exact absurd h (ofNat_append_ne rfl _ _ _)
  · obtain ⟨habs, hrest⟩ := apart_ofNat _ _ r s hr hs h
    exact ⟨by omega, hrest⟩

/-! ## Hexadecimal digits -/

theorem digitChar_inj {m n : Nat} (hm : m < 16) (hn : n < 16)
    (h : Nat.digitChar m = Nat.digitChar n) : m = n := by
  have hall : ∀ i < 16, ∀ j < 16, Nat.digitChar i = Nat.digitChar j → i = j := by decide
  exact hall m hm n hn h

theorem hex_one {n : Nat} (hn : n < 16) : hex 1 n = [Nat.digitChar n] := by
  rw [hex, Nat.toDigits_of_lt_base hn]
  rfl

/-- The last of several digits. -/
theorem hex_succ {width : Nat} (hwidth : 0 < width) (n : Nat) :
    hex (width + 1) n = hex width (n / 16) ++ [Nat.digitChar (n % 16)] := by
  unfold hex
  dsimp only
  by_cases hn : n < 16
  · -- all but the last digit are zeros: padding on the left, padding and a digit on the right
    have hpad : List.replicate width '0' = List.replicate (width - 1) '0' ++ ['0'] := by
      rw [← List.replicate_succ']
      congr 1
      omega
    rw [Nat.toDigits_of_lt_base hn, Nat.div_eq_of_lt hn, Nat.mod_eq_of_lt hn, Nat.toDigits_zero]
    simp [hpad]
  · rw [Nat.toDigits_of_base_le (by decide) (by omega)]
    simp

theorem length_hex {width n : Nat} (hwidth : 0 < width) (hn : n < 16 ^ width) :
    (hex width n).length = width := by
  have hlength := (Nat.length_toDigits_le_iff (by decide) hwidth).mpr hn
  rw [hex, List.length_append, List.length_replicate]
  omega

/-- Numbers that have a given number of digits are told apart by them. -/
theorem hex_inj {width m n : Nat} (hwidth : 0 < width) (hm : m < 16 ^ width)
    (hn : n < 16 ^ width) (h : hex width m = hex width n) : m = n := by
  induction width, hwidth using Nat.le_induction generalizing m n with
  | base =>
    rw [hex_one hm, hex_one hn] at h
    exact digitChar_inj hm hn (List.cons.inj h).1
  | succ width hwidth ih =>
    rw [hex_succ hwidth, hex_succ hwidth] at h
    obtain ⟨hfront, hlast⟩ := List.append_inj' h rfl
    rw [pow_succ] at hm hn
    have hdiv := ih (Nat.div_lt_of_lt_mul (by omega)) (Nat.div_lt_of_lt_mul (by omega)) hfront
    have hmod := digitChar_inj (Nat.mod_lt _ (by decide)) (Nat.mod_lt _ (by decide))
      (List.cons.inj hlast).1
    omega

end Text

namespace Json

open Text (Apart EndsNumber)

/-! ## Strings -/

theorem unitEscape_append (n : Nat) (rest : List Char) :
    unitEscape n ++ rest = '\\' :: 'u' :: (Text.hex 4 n ++ rest) :=
  rfl

theorem unitEscape_append_inj {m n : Nat} (hm : m < 0x10000) (hn : n < 0x10000)
    {r s : List Char} (h : unitEscape m ++ r = unitEscape n ++ s) : m = n ∧ r = s := by
  have hlength : (Text.hex 4 m).length = (Text.hex 4 n).length := by
    rw [Text.length_hex (by decide) hm, Text.length_hex (by decide) hn]
  obtain ⟨hunit, hrest⟩ := List.append_inj h (by simp only [unitEscape, List.length_cons, hlength])
  have hhex : Text.hex 4 m = Text.hex 4 n := (List.cons.inj (List.cons.inj hunit).2).2
  exact ⟨Text.hex_inj (by decide) hm hn hhex, hrest⟩

/-- How a character may be spelt inside a string. -/
inductive Spelt : Char → List Char → Prop where
  | plain {c : Char} (hquote : c ≠ '\x22') (hslash : c ≠ '\\') : Spelt c [c]
  | short {c letter : Char} (h : (c, letter) ∈ shortEscapes) : Spelt c ['\\', letter]
  | unit {c : Char} (h : c.toNat < 0x10000) : Spelt c (unitEscape c.toNat)
  | pair {c : Char} (h : 0x10000 ≤ c.toNat) :
      Spelt c (unitEscape (highUnit c) ++ unitEscape (lowUnit c))

theorem spelt_stringChar (c : Char) : Spelt c (stringChar c) := by
  unfold stringChar
  split
  · rename_i letter hletter
    obtain ⟨before, after, hescapes, -⟩ := List.lookup_eq_some_iff.mp hletter
    refine .short ?_
    rw [hescapes]
    simp
  · rename_i hnone
    rw [List.lookup_eq_none_iff] at hnone
    have hquote : c ≠ '\x22' := by simpa using hnone ('\x22', '\x22') (by decide)
    have hslash : c ≠ '\\' := by simpa using hnone ('\\', '\\') (by decide)
    split
    · exact .plain hquote hslash
    · split
      case isTrue hunit => exact .unit hunit
      case isFalse hunit => exact .pair (by omega)

/-- No character is half of a pair of units. -/
theorem toNat_lt_or_gt (c : Char) :
    c.toNat < 0xD800 ∨ (0xDFFF < c.toNat ∧ c.toNat < 0x110000) :=
  c.valid

theorem highUnit_bounds {c : Char} (h : 0x10000 ≤ c.toNat) :
    0xD800 ≤ highUnit c ∧ highUnit c < 0xDC00 := by
  have hvalid := toNat_lt_or_gt c
  unfold highUnit
  omega

theorem lowUnit_lt (c : Char) : lowUnit c < 0x10000 := by
  unfold lowUnit
  omega

/-- The letter of a short escape is that of one character. -/
theorem shortEscapes_inj {c d letter : Char} (hc : (c, letter) ∈ shortEscapes)
    (hd : (d, letter) ∈ shortEscapes) : c = d := by
  have hall : shortEscapes.all (fun p => shortEscapes.all fun q => p.2 != q.2 || p.1 == q.1) := by
    decide
  simpa using List.all_eq_true.mp (List.all_eq_true.mp hall _ hc) _ hd

/-- It is not the letter that announces a unit. -/
theorem shortEscape_append_ne {c letter : Char} (h : (c, letter) ∈ shortEscapes) (n : Nat)
    (r s : List Char) : ['\\', letter] ++ r ≠ unitEscape n ++ s := by
  have hall : shortEscapes.all (fun p => p.2 != 'u') := by decide
  have hletter : letter ≠ 'u' := by simpa using List.all_eq_true.mp hall _ h
  rw [unitEscape_append]
  intro heq
  exact hletter (List.cons.inj (List.cons.inj heq).2).1

/-- Where a character starts, no other one does. -/
theorem Spelt.append_inj {c d : Char} {x y r s : List Char} (hc : Spelt c x) (hd : Spelt d y)
    (h : x ++ r = y ++ s) : c = d ∧ r = s := by
  cases hc with
  | plain _ hslash =>
    cases hd with
    | plain => exact List.cons.inj h
    | short | unit | pair => exact absurd (List.cons.inj h).1 hslash
  | short hc =>
    cases hd with
    | plain _ hslash => exact absurd (List.cons.inj h).1.symm hslash
    | short hd =>
      obtain ⟨rfl, hrest⟩ := List.cons.inj (List.cons.inj h).2
      exact ⟨shortEscapes_inj hc hd, hrest⟩
    | unit => exact absurd h (shortEscape_append_ne hc _ _ _)
    | pair =>
      rw [List.append_assoc] at h
      exact absurd h (shortEscape_append_ne hc _ _ _)
  | unit hc =>
    cases hd with
    | plain _ hslash => exact absurd (List.cons.inj h).1.symm hslash
    | short hd => exact absurd h.symm (shortEscape_append_ne hd _ _ _)
    | unit hd =>
      obtain ⟨hunit, hrest⟩ := unitEscape_append_inj hc hd h
      exact ⟨Char.toNat_inj.mp hunit, hrest⟩
    | pair hd =>
      -- the first unit of a pair is in the gap that no character is in
      have hbounds := highUnit_bounds hd
      have hvalid := toNat_lt_or_gt c
      rw [List.append_assoc] at h
      obtain ⟨hunit, -⟩ := unitEscape_append_inj hc (by omega) h
      omega
  | pair hc =>
    have hbounds := highUnit_bounds hc
    rw [List.append_assoc] at h
    cases hd with
    | plain _ hslash => exact absurd (List.cons.inj h).1.symm hslash
    | short hd => exact absurd h.symm (shortEscape_append_ne hd _ _ _)
    | unit hd =>
      have hvalid := toNat_lt_or_gt d
      obtain ⟨hunit, -⟩ := unitEscape_append_inj (by omega) hd h
      omega
    | pair hd =>
      have hbounds' := highUnit_bounds hd
      rw [List.append_assoc] at h
      obtain ⟨hhigh, hrest⟩ := unitEscape_append_inj (by omega) (by omega) h
      obtain ⟨hlow, hrest⟩ := unitEscape_append_inj (lowUnit_lt c) (lowUnit_lt d) hrest
      refine ⟨Char.toNat_inj.mp ?_, hrest⟩
      -- the units are a quotient and a remainder of the same number
      unfold highUnit at hhigh
      unfold lowUnit at hlow
      omega

/-- No character is spelt with a quote in front, which would end the string. -/
theorem Spelt.append_ne_quote {c : Char} {x : List Char} (h : Spelt c x) (r s : List Char) :
    x ++ r ≠ '\x22' :: s := by
  intro heq
  cases h with
  | plain hquote => exact hquote (List.cons.inj heq).1
  | short | unit | pair => exact absurd (List.cons.inj heq).1 (by decide)

theorem flatMap_stringChar_append_inj {text other r s : List Char}
    (h : text.flatMap stringChar ++ '\x22' :: r = other.flatMap stringChar ++ '\x22' :: s) :
    text = other ∧ r = s := by
  induction text generalizing other with
  | nil =>
    cases other with
    | nil => exact ⟨rfl, (List.cons.inj h).2⟩
    | cons d other =>
      rw [List.flatMap_cons, List.append_assoc] at h
      exact absurd h.symm ((spelt_stringChar d).append_ne_quote _ _)
  | cons c text ih =>
    rw [List.flatMap_cons, List.append_assoc] at h
    cases other with
    | nil => exact absurd h ((spelt_stringChar c).append_ne_quote _ _)
    | cons d other =>
      rw [List.flatMap_cons, List.append_assoc] at h
      obtain ⟨rfl, hrest⟩ := (spelt_stringChar c).append_inj (spelt_stringChar d) h
      obtain ⟨rfl, hend⟩ := ih hrest
      exact ⟨rfl, hend⟩

theorem apart_string (text other : List Char) : Apart string text other := by
  intro r s _ _ h
  rw [string, string, List.cons_append, List.cons_append, List.append_assoc,
    List.append_assoc] at h
  exact flatMap_stringChar_append_inj (List.cons.inj h).2

/-! ## Brackets -/

/-- What stands behind an item in brackets: the end of the brackets, or a comma and the items that
follow. -/
def behind (closer : Char) (level : Nat) (rest : List Char) : List (List Char) → List Char
  | [] => newline level ++ closer :: rest
  | item :: items => ',' :: newline (level + 1) ++ (item ++ behind closer level rest items)

theorem bracketed_cons_append (opener closer : Char) (level : Nat) (item : List Char)
    (items : List (List Char)) (rest : List Char) :
    bracketed opener closer level (item :: items) ++ rest =
      opener :: newline (level + 1) ++ (item ++ behind closer level rest items) := by
  have hitems : List.intercalate (',' :: newline (level + 1)) (item :: items) ++
      (newline level ++ closer :: rest) = item ++ behind closer level rest items := by
    induction items generalizing item with
    | nil => simp [behind, List.intercalate]
    | cons next items ih =>
      rw [behind, ← ih next]
      simp [List.intercalate]
  rw [← hitems, bracketed, if_neg (by simp)]
  simp

theorem endsNumber_behind (closer : Char) (level : Nat) (rest : List Char)
    (items : List (List Char)) : EndsNumber (behind closer level rest items) := by
  cases items with
  | nil => exact Text.endsNumber_cons rfl _
  | cons item items => exact Text.endsNumber_cons rfl _

section

variable {α : Type} {write : α → List Char} {closer : Char} {level : Nat} {r s : List Char}

theorem behind_inj {items others : List α}
    (hitems : ∀ p ∈ items.zip others, Apart write p.1 p.2)
    (h : behind closer level r (items.map write) = behind closer level s (others.map write)) :
    items = others ∧ r = s := by
  induction items generalizing others with
  | nil =>
    cases others with
    | nil => exact ⟨rfl, (List.cons.inj (List.append_cancel_left h)).2⟩
    | cons other others => exact absurd (List.cons.inj h).1 (by decide)
  | cons item items ih =>
    cases others with
    | nil => exact absurd (List.cons.inj h).1 (by decide)
    | cons other others =>
      rw [List.zip_cons_cons, List.forall_mem_cons] at hitems
      have happart : Apart write item other := hitems.1
      obtain ⟨rfl, hbehind⟩ := happart _ _ (endsNumber_behind _ _ _ _) (endsNumber_behind _ _ _ _)
        (List.append_cancel_left h)
      obtain ⟨rfl, hrest⟩ := ih hitems.2 hbehind
      exact ⟨rfl, hrest⟩

/-- Items in brackets are told apart if those in the same places are. -/
theorem bracketed_append_inj {opener : Char} (hcloser : closer ≠ '\n') {items others : List α}
    (hitems : ∀ p ∈ items.zip others, Apart write p.1 p.2)
    (h : bracketed opener closer level (items.map write) ++ r =
      bracketed opener closer level (others.map write) ++ s) : items = others ∧ r = s := by
  cases items with
  | nil =>
    cases others with
    | nil => exact ⟨rfl, List.append_cancel_left h⟩
    | cons other others =>
      rw [List.map_cons, bracketed_cons_append] at h
      exact absurd (List.cons.inj (List.cons.inj h).2).1 hcloser
  | cons item items =>
    rw [List.map_cons, bracketed_cons_append] at h
    cases others with
    | nil => exact absurd (List.cons.inj (List.cons.inj h).2).1.symm hcloser
    | cons other others =>
      -- with a comma in front, the first items are like the others
      rw [List.map_cons, bracketed_cons_append] at h
      have hcommas := congrArg (',' :: ·) (List.cons.inj h).2
      exact behind_inj hitems hcommas

theorem apart_array (level : Nat) {items others : List α}
    (h : ∀ a ∈ items, ∀ b ∈ others, Apart write a b) :
    Apart (fun list => array level (list.map write)) items others := by
  intro r s _ _ happend
  refine bracketed_append_inj (by decide) ?_ happend
  intro p hp
  exact h _ (List.of_mem_zip hp).1 _ (List.of_mem_zip hp).2

/-- Objects with the same keys are told apart if the values of each key are. -/
theorem object_append_inj {fields others : List (String × List Char)}
    (hfields : ∀ p ∈ fields.zip others, p.1.1 = p.2.1 ∧ Apart id p.1.2 p.2.2)
    (h : object level fields ++ r = object level others ++ s) : fields = others ∧ r = s := by
  refine bracketed_append_inj (by decide) ?_ h
  rintro ⟨⟨key, value⟩, other, otherValue⟩ hp r s hr hs happend
  obtain ⟨hkey, hvalue⟩ : key = other ∧ Apart id value otherValue := hfields _ hp
  subst hkey
  rw [List.append_assoc, List.append_assoc] at happend
  have hvalues := (List.cons.inj (List.cons.inj (List.append_cancel_left happend)).2).2
  obtain ⟨rfl, hrest⟩ := hvalue r s hr hs hvalues
  exact ⟨rfl, hrest⟩

end

end Json

end ScriptFront
