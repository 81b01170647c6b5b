import ScriptFront.Analysis
import ScriptFront.Proofs.Command.Grammar
import ScriptFront.Proofs.Lexing.Outcome

/-!
# Ways into the front end

A script can be taken through the stages one by one (`tokenize`, `buildTree`), in one go (`compile`,
`parse`), or by a pipeline that records how far it got (`analyze`). All of them come to the same:

* `Ending.Describes` says what each way gives, for each ending that there is;
* `analyze_agrees`: exactly one ending describes a script.

The tokens of a script have values that can be shown (`isWritable_of_tokenize`), so the second stage
never breaks off. The first does if the error it meets stands in a column that cannot be written.
-/

namespace ScriptFront

/-- How the front end ends on a script. -/
inductive Ending where
  | done (tokens : List Token) (commands : List Command)
  | lexical (e : LexError)
  | syntactic (tokens : List Token) (e : ParseError)
  /-- The place of the lexical error cannot be written. -/
  | brokenOff

/-- What each way into the front end gives, if a script ends so. -/
def Ending.Describes (source : String) (margin : Int) : Ending → Prop
  | done tokens commands =>
    tokenize source margin = .ok tokens ∧
    buildTree tokens (some source) margin = .ok commands ∧
    (∃ a, analyze source margin = .ok a ∧ a.source = source ∧ a.tokens = some tokens ∧
      a.commands = some commands ∧ a.lexError = none ∧ a.parseError = none ∧ a.ok = true) ∧
    compile source margin = .ok (tokens, commands) ∧
    parse source margin = .ok commands
  | lexical e =>
    tokenize source margin = .error (.reported e) ∧
    (∃ a, analyze source margin = .ok a ∧ a.source = source ∧ a.tokens = none ∧
      a.commands = none ∧ a.lexError = some e ∧ a.parseError = none) ∧
    compile source margin = .error (.reported (.lex e)) ∧
    parse source margin = .error (.reported (.lex e))
  | syntactic tokens e =>
    tokenize source margin = .ok tokens ∧
    buildTree tokens (some source) margin = .error (.reported e) ∧
    (∃ a, analyze source margin = .ok a ∧ a.source = source ∧ a.tokens = some tokens ∧
      a.commands = none ∧ a.lexError = none ∧ a.parseError = some e) ∧
    compile source margin = .error (.reported (.parse e)) ∧
    parse source margin = .error (.reported (.parse e))
  | brokenOff =>
    tokenize source margin = .error (.abort .integerTooLong) ∧
    (∃ offset ≤ source.length,
      ¬ (Place.after margin (source.toList.take offset)).isWritable = true) ∧
    analyze source margin = .error .integerTooLong ∧
    compile source margin = .error (.abort .integerTooLong) ∧
    parse source margin = .error (.abort .integerTooLong)

/-! ## One stage after the other -/

/-- Parsing is tokenizing, then building the tree. -/
theorem parse_eq (source : String) (margin : Int) :
    parse source margin =
      match tokenize source margin with
      | .ok tokens => (buildTree tokens (some source) margin).mapError (·.widen .parse)
      | .error failure => .error (failure.widen .lex) := by
  unfold parse
  cases tokenize source margin <;> rfl

/-- A script is parsed if both stages succeed. -/
theorem parse_eq_ok_iff {source : String} {margin : Int} {commands : List Command} :
    parse source margin = .ok commands ↔ ∃ tokens, tokenize source margin = .ok tokens ∧
      buildTree tokens (some source) margin = .ok commands := by
  rw [parse_eq]
  cases tokenize source margin with
  | error failure => simp
  | ok tokens => cases h : buildTree tokens (some source) margin <;> simp [Except.mapError, h]

/-- A lexical error is one of the first stage. -/
theorem parse_eq_lex_iff {source : String} {margin : Int} {e : LexError} :
    parse source margin = .error (.reported (.lex e)) ↔
      tokenize source margin = .error (.reported e) := by
  rw [parse_eq]
  cases tokenize source margin with
  | error failure => cases failure <;> simp [Failure.widen]
  | ok tokens =>
    cases h : buildTree tokens (some source) margin with
    | ok commands => simp [Except.mapError, h]
    | error failure => cases failure <;> simp [Except.mapError, Failure.widen, h]

/-- A syntactic error is one of the second stage. -/
theorem parse_eq_parse_iff {source : String} {margin : Int} {e : ParseError} :
    parse source margin = .error (.reported (.parse e)) ↔ ∃ tokens,
      tokenize source margin = .ok tokens ∧
        buildTree tokens (some source) margin = .error (.reported e) := by
  rw [parse_eq]
  cases tokenize source margin with
  | error failure => cases failure <;> simp [Failure.widen]
  | ok tokens =>
    cases h : buildTree tokens (some source) margin with
    | ok commands => simp [Except.mapError, h]
    | error failure => cases failure <;> simp [Except.mapError, Failure.widen, h]

/-- Compiling is parsing that keeps the tokens. -/
theorem compile_eq (source : String) (margin : Int) :
    compile source margin =
      match tokenize source margin with
      | .ok tokens => (parse source margin).map (tokens, ·)
      | .error failure => .error (failure.widen .lex) := by
  rw [parse_eq]
  unfold compile
  cases tokenize source margin with
  | error failure => rfl
  | ok tokens => cases buildTree tokens (some source) margin <;> rfl

/-- The pipeline does what the stages do one after the other, and records it. -/
theorem analyze_eq (source : String) (margin : Int) :
    analyze source margin =
      match tokenize source margin with
      | .ok tokens =>
        match buildTree tokens (some source) margin with
        | .ok commands => .ok ⟨source, some tokens, some commands, none, none⟩
        | .error (.reported e) => .ok ⟨source, some tokens, none, none, some e⟩
        | .error (.abort reason) => .error reason
      | .error (.reported e) => .ok ⟨source, none, none, some e, none⟩
      | .error (.abort reason) => .error reason := by
  unfold analyze
  simp only [Analysis.stages, Pipeline.execute, Analysis.lexStage, Analysis.treeStage]
  cases tokenize source margin with
  | error failure => cases failure <;> rfl
  | ok tokens =>
    -- the second stage is handed a cursor on the tokens, and builds their tree
    have htree : (TokenCursor.start tokens (some source) margin).commands.1 =
        buildTree tokens (some source) margin := rfl
    simp only [Handoff.arguments, htree]
    cases buildTree tokens (some source) margin with
    | ok commands => rfl
    | error failure => cases failure <;> rfl

/-- A record is that of both stages, or of the stage that failed and those before it. -/
theorem analyze_eq_ok_cases {source : String} {margin : Int} {a : Analysis}
    (h : analyze source margin = .ok a) :
    (∃ tokens commands, tokenize source margin = .ok tokens ∧
      buildTree tokens (some source) margin = .ok commands ∧
      a = ⟨source, some tokens, some commands, none, none⟩) ∨
    (∃ e, tokenize source margin = .error (.reported e) ∧
      a = ⟨source, none, none, some e, none⟩) ∨
    ∃ tokens e, tokenize source margin = .ok tokens ∧
      buildTree tokens (some source) margin = .error (.reported e) ∧
      a = ⟨source, some tokens, none, none, some e⟩ := by
  rw [analyze_eq] at h
  cases htokens : tokenize source margin with
  | error failure =>
    rw [htokens] at h
    cases failure <;> cases h
    exact .inr (.inl ⟨_, rfl, rfl⟩)
  | ok tokens =>
    rw [htokens] at h
    dsimp only at h
    cases htree : buildTree tokens (some source) margin with
    | ok commands =>
      rw [htree] at h
      cases h
      exact .inl ⟨tokens, commands, rfl, htree, rfl⟩
    | error failure =>
      rw [htree] at h
      cases failure <;> cases h
      exact .inr (.inr ⟨tokens, _, rfl, htree, rfl⟩)

/-- A syntactic error is recorded if the second stage meets it. -/
theorem exists_tokens_of_parseError {source : String} {margin : Int} {a : Analysis}
    {e : ParseError} (h : analyze source margin = .ok a) (he : a.parseError = some e) :
    a.lexError = none ∧ ∃ tokens, tokenize source margin = .ok tokens ∧
      buildTree tokens (some source) margin = .error (.reported e) := by
  obtain ⟨_, _, -, -, rfl⟩ | ⟨_, -, rfl⟩ | ⟨tokens, _, htokens, htree, rfl⟩ := analyze_eq_ok_cases h
  · cases he
  · cases he
  · cases he
    exact ⟨rfl, tokens, htokens, htree⟩

/-! ## The second stage never breaks off -/

/-- The values of the tokens of a script can be written. -/
theorem isWritable_of_tokenize {source : String} {margin : Int} {tokens : List Token}
    (h : tokenize source margin = .ok tokens) : ∀ t ∈ tokens, t.value.isWritable = true :=
  fun t ht => (isReadFrom_of_tokenize h t ht).isWritable

/-- Tokens whose values can be written make up commands, or an error at one of them is reported. -/
theorem buildTree_of_isWritable {tokens : List Token}
    (h : ∀ t ∈ tokens, t.value.isWritable = true) (source : Option String) (margin : Int) :
    (∃ commands, buildTree tokens source margin = .ok commands) ∨
      ∃ e t, buildTree tokens source margin = .error (.reported e) ∧ e.token = some t := by
  by_cases hframed : ∃ commands, Command.Framed commands tokens
  · obtain ⟨commands, hframed⟩ := hframed
    exact .inl ⟨commands, buildTree_of_framed hframed source margin⟩
  · right
    obtain ⟨index, t, hstray⟩ | hopen := Command.strayAt_or_leftOpen hframed
    · obtain ⟨failure, hbuild, hfailure⟩ := buildTree_of_strayAt hstray source margin
      rw [if_pos (h t (List.mem_of_getElem? hstray.1))] at hfailure
      obtain ⟨e, rfl, -, -, htoken⟩ := hfailure
      exact ⟨e, t, hbuild, htoken⟩
    · obtain ⟨failure, last, hbuild, -, e, rfl, -, -, htoken⟩ :=
        buildTree_of_leftOpen hopen source margin
      exact ⟨e, last, hbuild, htoken⟩

/-- A script has a record, unless the source or the margin is enormous. -/
theorem exists_analyze {source : String} {margin : Int}
    (hsmall : 1 + source.length + margin.natAbs < Text.unwritable) :
    ∃ a, analyze source margin = .ok a := by
  rw [analyze_eq]
  cases htokens : tokenize source margin with
  | ok tokens =>
    obtain ⟨commands, hbuild⟩ | ⟨e, t, hbuild, -⟩ :=
      buildTree_of_isWritable (isWritable_of_tokenize htokens) (some source) margin
    · simp only [hbuild]
      exact ⟨_, rfl⟩
    · simp only [hbuild]
      exact ⟨_, rfl⟩
  | error failure =>
    cases failure with
    | reported e => exact ⟨_, rfl⟩
    | abort reason =>
      obtain ⟨-, offset, -, hplace⟩ := exists_place_of_abort htokens
      exact absurd (Place.isWritable_take hsmall offset) hplace

/-! ## Agreement -/

/-- The ending of a script, read off its two stages. -/
def Ending.ofStages (source : String) (margin : Int) : Ending :=
  match tokenize source margin with
  | .ok tokens =>
    match buildTree tokens (some source) margin with
    | .ok commands => done tokens commands
    | .error (.reported e) => syntactic tokens e
    | .error (.abort _) => brokenOff
  | .error (.reported e) => lexical e
  | .error (.abort _) => brokenOff

/-- The ending that the stages give describes all the other ways. -/
theorem Ending.describes_ofStages (source : String) (margin : Int) :
    (ofStages source margin).Describes source margin := by
  rw [ofStages]
  cases htokens : tokenize source margin with
  | error failure =>
    cases failure with
    | reported e => simp [Describes, compile_eq, parse_eq, analyze_eq, htokens, Failure.widen]
    | abort reason =>
      -- only the first stage can break off, for one reason
      obtain ⟨rfl, hplace⟩ := exists_place_of_abort htokens
      refine ⟨htokens, hplace, ?_⟩
      simp [compile_eq, parse_eq, analyze_eq, htokens, Failure.widen]
  | ok tokens =>
    obtain ⟨commands, hbuild⟩ | ⟨e, t, hbuild, -⟩ :=
      buildTree_of_isWritable (isWritable_of_tokenize htokens) (some source) margin
    · simp [Describes, compile_eq, parse_eq, analyze_eq, htokens, hbuild, Except.mapError,
        Except.map, Analysis.ok, Analysis.error?]
    · simp [Describes, compile_eq, parse_eq, analyze_eq, htokens, hbuild, Except.mapError,
        Except.map, Failure.widen]

/-- Only the ending that the stages give describes a script. -/
theorem Ending.eq_of_describes {source : String} {margin : Int} {ending : Ending}
    (h : ending.Describes source margin) : ending = ofStages source margin := by
  -- each ending says what both stages give, and so which case of the definition it is
  cases ending with
  | done tokens commands => simp [ofStages, h.1, h.2.1]
  | lexical e => simp [ofStages, h.1]
  | syntactic tokens e => simp [ofStages, h.1, h.2.1]
  | brokenOff => simp [ofStages, h.1]

/-- All ways into the front end agree: whatever the script and the margin, there is exactly one
ending, and each of them shows it. -/
theorem analyze_agrees (source : String) (margin : Int) :
    ∃! ending : Ending, ending.Describes source margin :=
  ⟨Ending.ofStages source margin, Ending.describes_ofStages source margin,
    fun _ => Ending.eq_of_describes⟩

/-- An analysis that meets an error in a column of too many digits leaves no record. -/
theorem analyze_unwritable_column :
    analyze "/ 5x" (Text.unwritable - 1) = .error .integerTooLong ∧
      ¬ ∃ a, analyze "/ 5x" (Text.unwritable - 1) = .ok a := by
  have hanalyze : analyze "/ 5x" (Text.unwritable - 1) = .error .integerTooLong := by
    rw [analyze_eq, tokenize_wide_margin]
  refine ⟨hanalyze, ?_⟩
  rintro ⟨a, ha⟩
  rw [hanalyze] at ha
  cases ha

end ScriptFront
