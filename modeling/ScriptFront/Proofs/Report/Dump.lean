import ScriptFront.Proofs.Report.Json
import ScriptFront.Proofs.Report.Writable

/-!
# Dumps lose nothing

A dump of tokens or of commands is a text that no other list has, as long as all values are texts
and integers: `dumps_lossless`. Every object is told apart by its fields, and a kind by its name.
-/

namespace ScriptFront

open Text (Apart)

/-- Kinds are found by their names. -/
theorem Kind.ofName?_name (k : Kind) : ofName? k.name = some k := by
  have hall : all.all (fun k => ofName? k.name == some k) := by decide +kernel
  simpa using List.all_eq_true.mp hall k (mem_all k)

theorem Kind.name_injective : Function.Injective name := by
  intro k l h
  have hk := k.ofName?_name
  rw [h, l.ofName?_name] at hk
  exact (Option.some.inj hk).symm

/-- Whether a value is a text, or an integer that can be written. -/
def Value.IsPlain : Value → Prop
  | text _ => True
  | int n => n.natAbs < Text.unwritable
  | real _ => False

/-- Whether a token has nothing in it but texts and integers that can be written. -/
structure Token.IsPlain (t : Token) : Prop where
  value : t.value.IsPlain
  row : t.position.row.natAbs < Text.unwritable
  column : t.position.column.natAbs < Text.unwritable
  offset : t.position.offset.natAbs < Text.unwritable
  length : t.position.length.natAbs < Text.unwritable

namespace Report

theorem isWritable_of_isPlain {t : Token} (h : t.IsPlain) : isWritable t = true := by
  have hvalue : t.value.isWritable = true := by
    rw [Value.isWritable_iff]
    intro n hn
    have hplain := h.value
    rwa [hn] at hplain
  simp only [isWritable, hvalue, Text.isWritable_iff.mpr, h.row, h.column, h.offset, h.length,
    Bool.and_true]

/-! ## Objects -/

theorem apart_value {v w : Value} (hv : v.IsPlain) (hw : w.IsPlain) : Apart value v w := by
  intro r s hr hs h
  cases v with
  | text a =>
    cases w with
    | text b =>
      obtain ⟨htext, hrest⟩ := Json.apart_string _ _ r s hr hs h
      exact ⟨congrArg Value.text (String.toList_inj.mp htext), hrest⟩
    | int n => exact absurd h.symm (Text.ofInt_append_ne rfl (by decide) n s _)
    | real x => exact hw.elim
  | int m =>
    cases w with
    | text b => exact absurd h (Text.ofInt_append_ne rfl (by decide) m r _)
    | int n =>
      obtain ⟨hint, hrest⟩ := Text.apart_ofInt m n r s hr hs h
      exact ⟨congrArg Value.int hint, hrest⟩
    | real x => exact hw.elim
  | real x => exact hv.elim

theorem apart_position (level : Nat) (p q : Position) : Apart (position level) p q := by
  intro r s _ _ h
  obtain ⟨row, column, offset, length⟩ := p
  obtain ⟨row', column', offset', length'⟩ := q
  obtain ⟨hfields, hrest⟩ := Json.object_append_inj
    (by simp [fun m n => (Text.apart_ofInt m n).texts]) h
  simp only [List.cons.injEq, Prod.mk.injEq, true_and, and_true] at hfields
  obtain ⟨hrow, hcolumn, hoffset, hlength⟩ := hfields
  obtain rfl := (Text.apart_ofInt _ _).eq_of_write_eq hrow
  obtain rfl := (Text.apart_ofInt _ _).eq_of_write_eq hcolumn
  obtain rfl := (Text.apart_ofInt _ _).eq_of_write_eq hoffset
  obtain rfl := (Text.apart_ofInt _ _).eq_of_write_eq hlength
  exact ⟨rfl, hrest⟩

theorem apart_token (level : Nat) {t u : Token} (ht : t.IsPlain) (hu : u.IsPlain) :
    Apart (token level) t u := by
  intro r s _ _ h
  have hvalue := apart_value ht.value hu.value
  have hposition := apart_position (level + 1) t.position u.position
  obtain ⟨hfields, hrest⟩ := Json.object_append_inj
    (by simp [fun a b => (Json.apart_string a b).texts, hvalue.texts, hposition.texts]) h
  obtain ⟨kind, v, p⟩ := t
  obtain ⟨kind', w, q⟩ := u
  simp only [List.cons.injEq, Prod.mk.injEq, true_and, and_true] at hfields
  obtain ⟨-, hname, htext, hplace⟩ := hfields
  -- the category follows from the kind, and the kind from its name
  obtain rfl := Kind.name_injective
    (String.toList_inj.mp ((Json.apart_string _ _).eq_of_write_eq hname))
  obtain rfl := hvalue.eq_of_write_eq htext
  obtain rfl := hposition.eq_of_write_eq hplace
  exact ⟨rfl, hrest⟩

theorem apart_tokenArray (level : Nat) {tokens others : List Token}
    (htokens : ∀ t ∈ tokens, t.IsPlain) (hothers : ∀ t ∈ others, t.IsPlain) :
    Apart (tokenArray level) tokens others :=
  Json.apart_array level fun t ht u hu => apart_token (level + 1) (htokens t ht) (hothers u hu)

theorem apart_command (level : Nat) {c d : Command} (hc : ∀ t ∈ c.body, t.IsPlain)
    (hd : ∀ t ∈ d.body, t.IsPlain) : Apart (command level) c d := by
  intro r s _ _ h
  have hbody := apart_tokenArray (level + 1) hc hd
  obtain ⟨hfields, hrest⟩ := Json.object_append_inj (by simp [Apart.refl, hbody.texts]) h
  obtain ⟨body⟩ := c
  obtain ⟨body'⟩ := d
  simp only [List.cons.injEq, Prod.mk.injEq, true_and, and_true] at hfields
  obtain rfl := hbody.eq_of_write_eq hfields
  exact ⟨rfl, hrest⟩

/-! ## Lists -/

/-- The dump of tokens is that of no other tokens, and the dump of commands that of no other
commands. -/
theorem dumps_lossless :
    (∀ tokens : List Token, (∀ t ∈ tokens, t.IsPlain) →
      ∃ text, dumpTokens tokens = .ok text ∧
        ∀ others : List Token, (∀ t ∈ others, t.IsPlain) →
          dumpTokens others = .ok text → others = tokens) ∧
    (∀ commands : List Command, (∀ c ∈ commands, ∀ t ∈ c.body, t.IsPlain) →
      ∃ text, dumpTree commands = .ok text ∧
        ∀ others : List Command, (∀ c ∈ others, ∀ t ∈ c.body, t.IsPlain) →
          dumpTree others = .ok text → others = commands) := by
  refine ⟨?_, ?_⟩
  · intro tokens htokens
    refine ⟨_, dumpTokens_of_isWritable fun t ht => isWritable_of_isPlain (htokens t ht), ?_⟩
    intro others hothers hdump
    rw [dumpTokens_of_isWritable fun t ht => isWritable_of_isPlain (hothers t ht)] at hdump
    have htext := String.ofList_inj.mp (Except.ok.inj hdump)
    exact (apart_tokenArray 0 hothers htokens).eq_of_write_eq htext
  · intro commands hcommands
    refine ⟨_, dumpTree_of_isWritable fun c hc t ht => isWritable_of_isPlain (hcommands c hc t ht),
      ?_⟩
    intro others hothers hdump
    rw [dumpTree_of_isWritable fun c hc t ht => isWritable_of_isPlain (hothers c hc t ht)] at hdump
    have htext := String.ofList_inj.mp (Except.ok.inj hdump)
    have hapart := Json.apart_array 0 fun c hc d hd =>
      apart_command 1 (hothers c hc) (hcommands d hd)
    exact hapart.eq_of_write_eq htext

/-- A number is not dumped as the text that spells it, and it matters which command it is in. -/
theorem dumps_lossless_numeral :
    let number : Token := ⟨.number (.signed .int), .int 5, ⟨1, 0, 0, 1⟩⟩
    let numeral : Token := ⟨.number (.signed .int), .text "5", ⟨1, 0, 0, 1⟩⟩
    (∃ text, dumpTokens [number] = .ok text ∧ dumpTokens [numeral] ≠ .ok text) ∧
      ∃ text, dumpTree [⟨[number]⟩, ⟨[]⟩] = .ok text ∧ dumpTree [⟨[]⟩, ⟨[number]⟩] ≠ .ok text := by
  intro number numeral
  have hfive : Value.IsPlain (.int 5) := show 5 < Text.unwritable by decide +kernel
  have hnumber : number.IsPlain :=
    ⟨hfive, by decide +kernel, by decide +kernel, by decide +kernel, by decide +kernel⟩
  have hnumeral : numeral.IsPlain :=
    ⟨trivial, hnumber.row, hnumber.column, hnumber.offset, hnumber.length⟩
  refine ⟨?_, ?_⟩
  · obtain ⟨text, hdump, hother⟩ := dumps_lossless.1 [number] (by simpa using hnumber)
    refine ⟨text, hdump, fun h => ?_⟩
    exact absurd (hother [numeral] (by simpa using hnumeral) h) (by decide)
  · obtain ⟨text, hdump, hother⟩ :=
      dumps_lossless.2 [⟨[number]⟩, ⟨[]⟩] (by simpa using hnumber)
    refine ⟨text, hdump, fun h => ?_⟩
    exact absurd (hother [⟨[]⟩, ⟨[number]⟩] (by simpa using hnumber) h) (by decide)

end Report

end ScriptFront
