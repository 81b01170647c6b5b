import ScriptFront.Proofs.Diagnostic.Shown
import ScriptFront.Report.Dump

/-!
# When a report can be written

Only an integer of too many digits keeps a dump or the table from being written. They are whole if
the values and the places of all tokens can be written (`Report.dumpTokens_of_isWritable`,
`Report.dumpTree_of_isWritable`, `Report.tokenTable_of_isWritable`). Unless the script or the margin
is enormous, this is so for all tokens of a script, and its error can be shown
(`isWritable_of_analyze`).
-/

namespace ScriptFront

/-! ## Dumps and the table -/

/-- Only an integer can be too long. -/
theorem Value.isWritable_iff {v : Value} :
    v.isWritable = true ↔ ∀ n, v = .int n → n.natAbs < Text.unwritable := by
  cases v with
  | text s => simp [isWritable]
  | int n => simp [isWritable, Text.isWritable_iff]
  | real x => simp [isWritable]

namespace Report

theorem dumpTokens_of_isWritable {tokens : List Token} (h : ∀ t ∈ tokens, isWritable t = true) :
    dumpTokens tokens = .ok (String.ofList (tokenArray 0 tokens)) :=
  if_pos (List.all_eq_true.mpr h)

theorem dumpTree_of_isWritable {commands : List Command}
    (h : ∀ c ∈ commands, ∀ t ∈ c.body, isWritable t = true) :
    dumpTree commands = .ok (String.ofList (Json.array 0 (commands.map (command 1)))) := by
  refine if_pos (List.all_eq_true.mpr ?_)
  intro c hc
  exact List.all_eq_true.mpr (h c hc)

/-- The table has a line for each token, if all of them can have one. -/
theorem tokenTable_of_hasTableLine {tokens : List Token} (h : ∀ t ∈ tokens, hasTableLine t = true) :
    tokenTable tokens = String.ofList (tokens.flatMap tableLine) ∧
      tableBreakdown? tokens = none := by
  refine ⟨?_, if_pos (List.all_eq_true.mpr h)⟩
  rw [tokenTable, List.takeWhile_eq_self_iff.mpr h]

/-- The table of tokens that can be written has a line for each of them. -/
theorem tokenTable_of_isWritable {tokens : List Token} (h : ∀ t ∈ tokens, isWritable t = true) :
    tokenTable tokens = String.ofList (tokens.flatMap tableLine) ∧
      tableBreakdown? tokens = none := by
  refine tokenTable_of_hasTableLine fun t ht => ?_
  have hwritable := h t ht
  simp only [isWritable, Bool.and_eq_true] at hwritable
  simp [hasTableLine, hwritable]

end Report

/-! ## Scripts -/

/-- The tokens of a source can be written, unless the source or the margin is enormous. -/
theorem Report.isWritable_of_tokenize {source : String} {margin : Int} {tokens : List Token}
    (h : tokenize source margin = .ok tokens)
    (hsmall : 1 + source.length + margin.natAbs < Text.unwritable) :
    ∀ t ∈ tokens, isWritable t = true := by
  intro t ht
  obtain ⟨offset, hoffset, hat, hrow, hcolumn⟩ := place_of_tokenize h ht
  have hread := isReadFrom_of_tokenize h t ht
  have hinside := hread.inside
  rw [Position.endOffset, String.length_toList] at hinside
  have hplace := Place.isWritable_take hsmall offset
  rw [Place.isWritable, ← hrow, ← hcolumn, Bool.and_eq_true] at hplace
  rw [isWritable, hread.isWritable, hplace.1, hplace.2]
  simp only [Bool.and_eq_true, Text.isWritable_iff, true_and]
  omega

/-- The tokens of commands are among those that make them up. -/
theorem Command.Framed.body_subset {commands : List Command} {tokens : List Token}
    (h : Framed commands tokens) : ∀ c ∈ commands, ∀ t ∈ c.body, t ∈ tokens := by
  induction h with
  | nil => simp
  | cons _ _ _ _ ih =>
    rw [List.forall_mem_cons]
    refine ⟨?_, ?_⟩
    · intro t ht
      simp [ht]
    · intro c hc t ht
      simp [ih c hc t ht]

/-- Whether an error is shown as a text. -/
def Diagnostic.ShownAs (filename : String) (d : Diagnostic) (text : String) : Prop :=
  match d with
  | .lex e => e.format filename = .ok text
  | .parse e => e.format filename = .ok text
  | _ => False

section

variable {source : String} {margin : Int}

/-- Whether all that is known about a script can be written. -/
structure Analysis.IsWritable (filename : String) (a : Analysis) : Prop where
  tokens : ∀ tokens, a.tokens = some tokens → ∀ t ∈ tokens, Report.isWritable t = true
  commands : ∀ commands, a.commands = some commands →
    ∀ c ∈ commands, ∀ t ∈ c.body, Report.isWritable t = true
  error : ∀ d, a.error? = some d → ∃ text, d.ShownAs filename text

/-- All that is known about a script can be written, unless the source or the margin is enormous. -/
theorem isWritable_of_analyze {a : Analysis} (h : analyze source margin = .ok a)
    (hsmall : 1 + source.length + margin.natAbs < Text.unwritable)
    (hsize : a.ok = true ∨ source.length < Snippet.memoryLimit) (filename : String) :
    a.IsWritable filename := by
  obtain ⟨tokens, commands, htokens, htree, rfl⟩ | ⟨e, htokens, rfl⟩ |
    ⟨tokens, e, htokens, htree, rfl⟩ := analyze_eq_ok_cases h
  · -- there is no error, and the tokens of commands are tokens of the source
    have hwritable := Report.isWritable_of_tokenize htokens hsmall
    refine ⟨?_, ?_, ?_⟩
    · rintro _ ⟨⟩
      exact hwritable
    · rintro _ ⟨⟩ c hc t ht
      exact hwritable t ((framed_of_buildTree htree).body_subset c hc t ht)
    · rintro d ⟨⟩
  · obtain hok | hsize := hsize
    · cases hok
    refine ⟨?_, ?_, ?_⟩
    · rintro _ ⟨⟩
    · rintro _ ⟨⟩
    · rintro d ⟨⟩
      exact exists_format_of_tokenize htokens hsize filename
  · obtain hok | hsize := hsize
    · cases hok
    refine ⟨?_, ?_, ?_⟩
    · rintro _ ⟨⟩
      exact Report.isWritable_of_tokenize htokens hsmall
    · rintro _ ⟨⟩
    · rintro d ⟨⟩
      have hparse := parse_eq_parse_iff.mpr ⟨tokens, htokens, htree⟩
      exact exists_format_of_parse hparse hsmall hsize filename

end

end ScriptFront
