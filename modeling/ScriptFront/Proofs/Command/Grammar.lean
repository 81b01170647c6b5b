import Mathlib.Data.List.TakeWhile
import ScriptFront.Cursor.Token

/-!
# The grammar of commands

`Command.Framed` says which tokens make up which commands. Tokens that make up none go wrong after
some complete commands, in one of two ways: a token stands where a command should open
(`Command.StrayAt`), or a command is not closed (`Command.LeftOpen`). Each case has an equation for
`Command.group`, and `buildTree_exact` puts them together.
-/

namespace ScriptFront

namespace Command

/-- Whether tokens are some commands one after the other, each of them an opener, a body without
closers, and a closer. -/
inductive Framed : List Command → List Token → Prop where
  | nil : Framed [] []
  | cons {opener closer : Token} {body tokens : List Token} {commands : List Command}
      (hopener : opener.kind = .symbol .divide)
      (hbody : ∀ t ∈ body, t.kind ≠ .symbol .terminator)
      (hcloser : closer.kind = .symbol .terminator) (hrest : Framed commands tokens) :
      Framed (⟨body⟩ :: commands) (opener :: (body ++ closer :: tokens))

/-- Whether the token at an index follows complete commands and does not open another. -/
def StrayAt (tokens : List Token) (index : Nat) (t : Token) : Prop :=
  tokens[index]? = some t ∧ (∃ commands, Framed commands (tokens.take index)) ∧
    t.kind ≠ .symbol .divide

/-- Whether complete commands are followed by an opener and tokens without a closer. -/
def LeftOpen (tokens : List Token) : Prop :=
  ∃ commands front opener rest, tokens = front ++ opener :: rest ∧ Framed commands front ∧
    opener.kind = .symbol .divide ∧ ∀ t ∈ rest, t.kind ≠ .symbol .terminator

/-! ## Equations for grouping -/

theorem isOpener_iff {t : Token} : isOpener t = true ↔ t.kind = .symbol .divide := by
  rw [isOpener, beq_iff_eq]

theorem not_isCloser_iff {t : Token} :
    (! isCloser t) = true ↔ t.kind ≠ .symbol .terminator := by
  rw [isCloser, Bool.not_eq_true', beq_eq_false_iff_ne]

theorem group_nil : group [] = .took 0 [] := by
  rw [group]

/-- A complete command is taken off the front. -/
theorem group_command {opener closer : Token} {body : List Token} (rest : List Token)
    (hopener : opener.kind = .symbol .divide)
    (hbody : ∀ t ∈ body, t.kind ≠ .symbol .terminator)
    (hcloser : closer.kind = .symbol .terminator) :
    group (opener :: (body ++ closer :: rest)) =
      (group rest).extend (body.length + 2) (⟨body⟩ :: ·) := by
  have hrun : ∀ t ∈ body, (! isCloser t) = true := fun t ht => not_isCloser_iff.mpr (hbody t ht)
  have hstop : ¬ (! isCloser closer) = true := fun h => not_isCloser_iff.mp h hcloser
  have htake : (body ++ closer :: rest).takeWhile (! isCloser ·) = body := by
    rw [List.takeWhile_append_of_pos hrun, List.takeWhile_cons, if_neg hstop, List.append_nil]
  have hdrop : (body ++ closer :: rest).dropWhile (! isCloser ·) = closer :: rest := by
    rw [List.dropWhile_append_of_pos hrun, List.dropWhile_cons, if_neg hstop]
  rw [group, if_pos (isOpener_iff.mpr hopener)]
  simp only [htake]
  split
  · rename_i hnil
    rw [hdrop] at hnil
    cases hnil
  · rename_i other others hcons
    rw [hdrop] at hcons
    cases hcons
    rfl

/-- A token that opens no command stops the grouping. -/
theorem group_stray {t : Token} (rest : List Token) (ht : t.kind ≠ .symbol .divide) :
    group (t :: rest) = .failed 0 (.unexpectedToken t) := by
  have hopener : ¬ isOpener t = true := fun h => ht (isOpener_iff.mp h)
  rw [group, if_neg hopener]

/-- A command without a closer stops the grouping at the end. -/
theorem group_open {opener : Token} {rest : List Token} (hopener : opener.kind = .symbol .divide)
    (hrest : ∀ t ∈ rest, t.kind ≠ .symbol .terminator) :
    group (opener :: rest) = .failed (rest.length + 1) .missingTerminator := by
  have hdrop : rest.dropWhile (! isCloser ·) = [] :=
    List.dropWhile_eq_nil_iff.mpr fun t ht => not_isCloser_iff.mpr (hrest t ht)
  rw [group, if_pos (isOpener_iff.mpr hopener)]
  simp only
  split
  · rfl
  · rename_i other others hcons
    rw [hdrop] at hcons
    cases hcons

/-- Complete commands are taken off the front one after the other. -/
theorem Framed.group_append {commands : List Command} {front : List Token}
    (h : Framed commands front) (rest : List Token) :
    group (front ++ rest) = (group rest).extend front.length (commands ++ ·) := by
  induction h with
  | nil =>
    rw [List.nil_append]
    cases group rest with
    | took width others => simp [Reading.extend]
    | failed width cause => simp [Reading.extend]
  | cons hopener hbody hcloser _ ih =>
    -- both sides extend the grouping of the rest, in one step or in two
    rw [List.cons_append, List.append_assoc, List.cons_append,
      group_command _ hopener hbody hcloser, ih]
    cases group rest with
    | took width others =>
      simp only [Reading.extend, List.cons_append, List.length_cons, List.length_append,
        Reading.took.injEq, and_true]
      omega
    | failed width cause =>
      simp only [Reading.extend, List.length_cons, List.length_append, Reading.failed.injEq,
        and_true]
      omega

theorem Framed.group_eq {commands : List Command} {tokens : List Token}
    (h : Framed commands tokens) : group tokens = .took tokens.length commands := by
  have hgroup := h.group_append []
  rw [List.append_nil, group_nil] at hgroup
  simpa [Reading.extend] using hgroup

theorem StrayAt.group_eq {tokens : List Token} {index : Nat} {t : Token}
    (h : StrayAt tokens index t) : group tokens = .failed index (.unexpectedToken t) := by
  obtain ⟨hget, ⟨commands, hframed⟩, ht⟩ := h
  obtain ⟨hindex, hget⟩ := List.getElem?_eq_some_iff.mp hget
  have hsplit : tokens = tokens.take index ++ t :: tokens.drop (index + 1) := by
    rw [← hget, List.getElem_cons_drop, List.take_append_drop]
  have hlength : (tokens.take index).length = index := by
    rw [List.length_take]
    omega
  rw [hsplit, hframed.group_append, group_stray _ ht, Reading.extend, hlength, Nat.add_zero]

theorem LeftOpen.group_eq {tokens : List Token} (h : LeftOpen tokens) :
    group tokens = .failed tokens.length .missingTerminator := by
  obtain ⟨commands, front, opener, rest, rfl, hframed, hopener, hrest⟩ := h
  rw [hframed.group_append, group_open hopener hrest, Reading.extend, List.length_append,
    List.length_cons]

/-! ## Every list of tokens is framed, strays or is left open -/

/-- Tokens start with complete commands, and what is left over is nothing, does not start with an
opener, or is an opener that no closer follows. -/
theorem exists_framed_front (tokens : List Token) :
    ∃ commands front rest, tokens = front ++ rest ∧ Framed commands front ∧
      (rest = [] ∨ (∃ t others, rest = t :: others ∧ t.kind ≠ .symbol .divide) ∨
        ∃ opener others, rest = opener :: others ∧ opener.kind = .symbol .divide ∧
          ∀ t ∈ others, t.kind ≠ .symbol .terminator) := by
  fun_induction group tokens with
  | case1 => exact ⟨[], [], [], rfl, .nil, .inl rfl⟩
  | case2 opener others hopener hdrop =>
    have hothers : ∀ t ∈ others, t.kind ≠ .symbol .terminator := by
      intro t ht
      exact not_isCloser_iff.mp (List.dropWhile_eq_nil_iff.mp hdrop t ht)
    exact ⟨[], [], opener :: others, rfl, .nil,
      .inr (.inr ⟨opener, others, rfl, isOpener_iff.mp hopener, hothers⟩)⟩
  | case3 opener others hopener body closer rest hdrop ih =>
    obtain ⟨commands, front, rest, rfl, hframed, hrest⟩ := ih
    -- the command in front joins those that the rest starts with
    have hsplit : others = body ++ closer :: (front ++ rest) := by
      rw [← hdrop, List.takeWhile_append_dropWhile]
    have hbody : ∀ t ∈ body, t.kind ≠ .symbol .terminator := by
      intro t ht
      have hrun : (! isCloser t) = true := List.mem_takeWhile_imp (p := (! isCloser ·)) ht
      exact not_isCloser_iff.mp hrun
    have hcloser : closer.kind = .symbol .terminator := by
      have hne : others.dropWhile (! isCloser ·) ≠ [] := by
        rw [hdrop]
        exact List.cons_ne_nil _ _
      have hhead := List.head_dropWhile_not (! isCloser ·) hne
      simp only [hdrop, List.head_cons] at hhead
      exact not_not.mp fun h => Bool.eq_false_iff.mp hhead (not_isCloser_iff.mpr h)
    refine ⟨⟨body⟩ :: commands, opener :: (body ++ closer :: front), rest, ?_,
      .cons (isOpener_iff.mp hopener) hbody hcloser hframed, hrest⟩
    rw [hsplit, List.cons_append, List.append_assoc, List.cons_append]
  | case4 t others hopener =>
    have ht : t.kind ≠ .symbol .divide := fun h => hopener (isOpener_iff.mpr h)
    exact ⟨[], [], t :: others, rfl, .nil, .inr (.inl ⟨t, others, rfl, ht⟩)⟩

/-- Tokens that are no commands go wrong at a stray token or at their end. -/
theorem strayAt_or_leftOpen {tokens : List Token} (h : ¬ ∃ commands, Framed commands tokens) :
    (∃ index t, StrayAt tokens index t) ∨ LeftOpen tokens := by
  obtain ⟨commands, front, rest, rfl, hframed, hrest⟩ := exists_framed_front tokens
  obtain rfl | ⟨t, others, rfl, ht⟩ | ⟨opener, others, rfl, hopener, hothers⟩ := hrest
  · rw [List.append_nil] at h
    exact absurd ⟨commands, hframed⟩ h
  · refine .inl ⟨front.length, t, ?_, ⟨commands, ?_⟩, ht⟩
    · rw [List.getElem?_append_right (Nat.le_refl _), Nat.sub_self, List.getElem?_cons_zero]
    · rw [List.take_left]
      exact hframed
  · exact .inr ⟨commands, front, opener, others, rfl, hframed, hopener, hothers⟩

/-- Tokens go wrong in one way only, as the grouping stops for one cause. -/
theorem StrayAt.not_leftOpen {tokens : List Token} {index : Nat} {t : Token}
    (h : StrayAt tokens index t) : ¬ LeftOpen tokens := by
  intro hopen
  have hgroup := h.group_eq
  rw [hopen.group_eq] at hgroup
  cases hgroup

theorem StrayAt.not_framed {tokens : List Token} {index : Nat} {t : Token}
    (h : StrayAt tokens index t) : ¬ ∃ commands, Framed commands tokens := by
  rintro ⟨commands, hframed⟩
  have hgroup := h.group_eq
  rw [hframed.group_eq] at hgroup
  cases hgroup

theorem StrayAt.index_le {tokens : List Token} {index : Nat} {t : Token}
    (h : StrayAt tokens index t) : index ≤ tokens.length := by
  obtain ⟨hindex, _⟩ := List.getElem?_eq_some_iff.mp h.1
  exact Nat.le_of_lt hindex

end Command

/-! ## Building the tree -/

/-- Whether a failure reports an error of a kind at an index, pointing at a token. -/
def Failure.ReportsAt (failure : Failure ParseError Breakdown) (kind : ErrorKind) (index : Nat)
    (token : Token) : Prop :=
  ∃ e, failure = .reported e ∧ e.kind = some kind ∧ e.index = index ∧ e.token = some token

theorem TokenCursor.index_start_move {tokens : List Token} {n : Nat} (source : Option String)
    (margin : Int) (hn : n ≤ tokens.length) : ((start tokens source margin).move n).index = n := by
  simp only [start, move, Nat.zero_add]
  omega

theorem TokenCursor.current?_of_index_eq {k : TokenCursor} (h : k.index = k.tokens.length) :
    k.current? = k.tokens.getLast? := by
  have hlast : min k.tokens.length (k.tokens.length - 1) = k.tokens.length - 1 := by omega
  rw [current?, h, hlast, List.getLast?_eq_getElem?]

/-- The tree is what the grouping gives, with a failure located where the grouping stopped. -/
theorem buildTree_eq (tokens : List Token) (source : Option String) (margin : Int) :
    buildTree tokens source margin =
      ((TokenCursor.start tokens source margin).settle (Command.group tokens)).1 :=
  rfl

theorem buildTree_of_framed {commands : List Command} {tokens : List Token}
    (h : Command.Framed commands tokens) (source : Option String) (margin : Int) :
    buildTree tokens source margin = .ok commands := by
  rw [buildTree_eq, h.group_eq, TokenCursor.settle]

/-- A stray token is reported, unless its value is too long to be shown. -/
theorem buildTree_of_strayAt {tokens : List Token} {index : Nat} {t : Token}
    (h : Command.StrayAt tokens index t) (source : Option String) (margin : Int) :
    ∃ failure, buildTree tokens source margin = .error failure ∧
      (if t.value.isWritable then failure.ReportsAt .unexpectedToken index t
        else failure = .abort .integerTooLong) := by
  have hindex := TokenCursor.index_start_move source margin h.index_le
  rw [buildTree_eq, h.group_eq, TokenCursor.settle]
  refine ⟨_, rfl, ?_⟩
  by_cases hvalue : t.value.isWritable
  · rw [if_pos hvalue, TokenCursor.failure, Cause.isStatable, if_pos hvalue]
    refine ⟨_, rfl, rfl, ?_, rfl⟩
    rw [TokenCursor.error, hindex]
  · rw [if_neg hvalue, TokenCursor.failure, Cause.isStatable, if_neg hvalue]

theorem not_reported_of_strayAt {tokens : List Token} {index : Nat} {t : Token}
    (h : Command.StrayAt tokens index t) (hvalue : ¬ t.value.isWritable = true)
    (source : Option String) (margin : Int) :
    ¬ ∃ e, buildTree tokens source margin = .error (.reported e) := by
  obtain ⟨failure, hbuild, hfailure⟩ := buildTree_of_strayAt h source margin
  rw [if_neg hvalue] at hfailure
  rintro ⟨e, he⟩
  rw [hbuild, hfailure] at he
  cases he

/-- A command left open is reported at the end, pointing at the last token. -/
theorem buildTree_of_leftOpen {tokens : List Token} (h : Command.LeftOpen tokens)
    (source : Option String) (margin : Int) :
    ∃ failure last, buildTree tokens source margin = .error failure ∧
      tokens.getLast? = some last ∧ failure.ReportsAt .unterminatedSpan tokens.length last := by
  have hne : tokens ≠ [] := by
    obtain ⟨commands, front, opener, rest, rfl, _⟩ := h
    exact List.append_ne_nil_of_right_ne_nil _ (List.cons_ne_nil _ _)
  have hlast : tokens.getLast? = some (tokens.getLast hne) := List.getLast?_eq_some_getLast hne
  have hindex := TokenCursor.index_start_move source margin (Nat.le_refl tokens.length)
  rw [buildTree_eq, h.group_eq, TokenCursor.settle]
  refine ⟨_, tokens.getLast hne, rfl, hlast, _, rfl, rfl, ?_, ?_⟩
  · rw [TokenCursor.error, hindex]
  · -- the cause names no token, so the one at the cursor is taken
    have hcurrent := TokenCursor.current?_of_index_eq hindex
    rw [← hlast]
    exact hcurrent

theorem framed_of_buildTree {commands : List Command} {tokens : List Token}
    {source : Option String} {margin : Int} (h : buildTree tokens source margin = .ok commands) :
    Command.Framed commands tokens := by
  by_cases hsome : ∃ others, Command.Framed others tokens
  · obtain ⟨others, hothers⟩ := hsome
    rw [buildTree_of_framed hothers source margin] at h
    cases h
    exact hothers
  · obtain ⟨index, t, hstray⟩ | hopen := Command.strayAt_or_leftOpen hsome
    · obtain ⟨failure, hbuild, _⟩ := buildTree_of_strayAt hstray source margin
      rw [hbuild] at h
      cases h
    · obtain ⟨failure, last, hbuild, _⟩ := buildTree_of_leftOpen hopen source margin
      rw [hbuild] at h
      cases h

/-- A failure of the tree is that of a stray token or of a command left open. -/
theorem strayAt_or_leftOpen_of_buildTree {tokens : List Token} {source : Option String}
    {margin : Int} {failure : Failure ParseError Breakdown}
    (h : buildTree tokens source margin = .error failure) :
    (∃ index t, Command.StrayAt tokens index t ∧
        (if t.value.isWritable then failure.ReportsAt .unexpectedToken index t
          else failure = .abort .integerTooLong)) ∨
      (Command.LeftOpen tokens ∧ ∃ last, tokens.getLast? = some last ∧
        failure.ReportsAt .unterminatedSpan tokens.length last) := by
  have hnone : ¬ ∃ commands, Command.Framed commands tokens := by
    rintro ⟨commands, hframed⟩
    rw [buildTree_of_framed hframed source margin] at h
    cases h
  obtain ⟨index, t, hstray⟩ | hopen := Command.strayAt_or_leftOpen hnone
  · obtain ⟨failure', hbuild, hfailure⟩ := buildTree_of_strayAt hstray source margin
    rw [h] at hbuild
    cases hbuild
    exact .inl ⟨index, t, hstray, hfailure⟩
  · obtain ⟨failure', last, hbuild, hlast, hfailure⟩ := buildTree_of_leftOpen hopen source margin
    rw [h] at hbuild
    cases hbuild
    exact .inr ⟨hopen, last, hlast, hfailure⟩

/-- An error of the tree points at one of the tokens. -/
theorem exists_token_of_buildTree {tokens : List Token} {source : Option String} {margin : Int}
    {e : ParseError} (h : buildTree tokens source margin = .error (.reported e)) :
    ∃ t ∈ tokens, e.token = some t := by
  obtain ⟨index, t, hstray, hfailure⟩ | ⟨-, last, hlast, e', he, -, -, htoken⟩ :=
    strayAt_or_leftOpen_of_buildTree h
  · split at hfailure
    · obtain ⟨e', he, -, -, htoken⟩ := hfailure
      cases he
      exact ⟨t, List.mem_of_getElem? hstray.1, htoken⟩
    · cases hfailure
  · cases he
    exact ⟨last, List.mem_of_getLast? hlast, htoken⟩

/-- An error of the tree shows the source and the margin that it was given. -/
theorem source_of_buildTree {tokens : List Token} {source : Option String} {margin : Int}
    {e : ParseError} (h : buildTree tokens source margin = .error (.reported e)) :
    e.source = source ∧ e.margin = margin := by
  rw [buildTree_eq] at h
  cases hgroup : Command.group tokens with
  | took n commands =>
    rw [hgroup] at h
    cases h
  | failed n cause =>
    rw [hgroup, TokenCursor.settle, TokenCursor.failure] at h
    split at h
    · cases h
      exact ⟨rfl, rfl⟩
    · cases h

/-- The tree is built for commands and for nothing else. Otherwise the tokens go wrong in exactly
one of two ways, and the failure says which and where, unless the value of the stray token is too
long to be shown. -/
theorem buildTree_exact (tokens : List Token) (source : Option String) (margin : Int) :
    (∀ commands, buildTree tokens source margin = .ok commands ↔ Command.Framed commands tokens) ∧
    ((¬ ∃ commands, Command.Framed commands tokens) →
      ∃ failure, buildTree tokens source margin = .error failure ∧
        ((∃ index t, Command.StrayAt tokens index t ∧ ¬ Command.LeftOpen tokens ∧
            (if t.value.isWritable then failure.ReportsAt .unexpectedToken index t
              else failure = .abort .integerTooLong)) ∨
          (Command.LeftOpen tokens ∧ (¬ ∃ index t, Command.StrayAt tokens index t) ∧
            ∃ last, tokens.getLast? = some last ∧
              failure.ReportsAt .unterminatedSpan tokens.length last))) := by
  refine ⟨fun commands => ⟨framed_of_buildTree, fun h => buildTree_of_framed h source margin⟩, ?_⟩
  intro hnone
  obtain ⟨index, t, hstray⟩ | hopen := Command.strayAt_or_leftOpen hnone
  · obtain ⟨failure, hbuild, hfailure⟩ := buildTree_of_strayAt hstray source margin
    exact ⟨failure, hbuild, .inl ⟨index, t, hstray, hstray.not_leftOpen, hfailure⟩⟩
  · obtain ⟨failure, last, hbuild, hlast, hfailure⟩ := buildTree_of_leftOpen hopen source margin
    have hnostray : ¬ ∃ index t, Command.StrayAt tokens index t := by
      rintro ⟨index, t, hstray⟩
      exact hstray.not_leftOpen hopen
    exact ⟨failure, hbuild, .inr ⟨hopen, hnostray, last, hlast, hfailure⟩⟩

/-- A stray token with a value too long to be shown makes up no command, and is not reported. -/
theorem buildTree_unwritable_stray :
    (¬ ∃ commands, Command.Framed commands
        [⟨.number (.signed .int), .int Text.unwritable, ⟨1, 0, 0, 1⟩⟩]) ∧
      ¬ ∃ e, buildTree [⟨.number (.signed .int), .int Text.unwritable, ⟨1, 0, 0, 1⟩⟩] =
        .error (.reported e) := by
  have hstray : Command.StrayAt [⟨.number (.signed .int), .int Text.unwritable, ⟨1, 0, 0, 1⟩⟩] 0
      ⟨.number (.signed .int), .int Text.unwritable, ⟨1, 0, 0, 1⟩⟩ :=
    ⟨rfl, ⟨[], .nil⟩, by decide⟩
  have hvalue : ¬ (Value.int Text.unwritable).isWritable = true := by
    rw [Value.isWritable, Text.isWritable, Int.natAbs_natCast, decide_eq_true_eq]
    exact Nat.lt_irrefl _
  exact ⟨hstray.not_framed, not_reported_of_strayAt hstray hvalue none 0⟩

end ScriptFront
