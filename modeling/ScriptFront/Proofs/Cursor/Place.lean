import ScriptFront.Cursor.Text

/-!
# The place of a text cursor

A text cursor updates offset, row and column one character at a time. Here the three are compared
with what the characters behind the cursor say about them (`Place.after`):

* `Steps` says once what an action can do: move the cursor on, hand out tokens that start at places
  it passed, and report an error at the place it reached;
* `perform_steps`: every action does only that, whether it fails or not;
* `performAll_places`: so after any run of actions, the place, the tokens handed out next and the
  error reported next agree with the source.
-/

namespace ScriptFront

namespace Place

/-- The place behind some characters: one row down for each newline, and as far right of the margin
as there are characters after the last newline. -/
def after (margin : Int) (before : List Char) : Place :=
  ⟨before.length, 1 + before.count '\n',
    margin + (before.reverse.takeWhile (· ≠ '\n')).length⟩

theorem after_nil (margin : Int) : after margin [] = start margin := by
  simp [after, start]

/-- The next place counts one more character. -/
theorem next_after (margin : Int) (before : List Char) (c : Char) :
    (after margin before).next margin c = after margin (before ++ [c]) := by
  unfold next after
  by_cases hc : c = '\n'
  · subst hc
    simp [Nat.add_assoc]
  · simp [hc, List.count_append, Int.add_assoc]

end Place

namespace TextCursor

variable {α β : Type}

/-! ## Moving keeps the place -/

/-- Whether a cursor stands where the characters behind it say. -/
def IsPlaced (k : TextCursor) : Prop :=
  ∃ before, k.source.toList = before ++ k.rest ∧ k.place = .after k.margin before

theorem isPlaced_start (source : String) (margin : Int) : (start source margin).IsPlaced :=
  ⟨[], rfl, (Place.after_nil margin).symm⟩

theorem IsPlaced.move {k : TextCursor} (h : k.IsPlaced) (n : Nat) : (k.move n).IsPlaced := by
  induction n generalizing k with
  | zero => exact h
  | succ n ih =>
    unfold TextCursor.move
    split
    · exact h
    · rename_i c rest hrest
      apply ih
      obtain ⟨before, hsource, hplace⟩ := h
      refine ⟨before ++ [c], ?_, ?_⟩
      · rw [hsource, hrest, List.append_assoc, List.singleton_append]
      · rw [hplace, Place.next_after]

/-- The offset counts the characters moved over. -/
theorem offset_move (n : Nat) (k : TextCursor) :
    (k.move n).place.offset = k.place.offset + min n k.rest.length := by
  induction n generalizing k with
  | zero => simp [move]
  | succ n ih =>
    unfold move
    split
    · rename_i hrest
      simp [hrest]
    · rename_i c rest hrest
      rw [ih, hrest, List.length_cons]
      have hnext : (k.place.next k.margin c).offset = k.place.offset + 1 := by
        unfold Place.next
        split <;> rfl
      simp only [hnext]
      omega

/-- What a placed cursor has behind it is the source up to its offset. -/
theorem IsPlaced.place_eq {k : TextCursor} (h : k.IsPlaced) :
    k.place.offset ≤ k.source.length ∧
      k.place = .after k.margin (k.source.toList.take k.place.offset) := by
  obtain ⟨before, hsource, hplace⟩ := h
  have hoffset : k.place.offset = before.length := by rw [hplace]; rfl
  constructor
  · rw [hoffset, ← String.length_toList, hsource, List.length_append]
    omega
  · rw [hoffset, hsource, List.take_left, hplace]

/-! ## What an action can do -/

/-- What an action can do to a cursor, given the tokens that its answer holds. -/
structure Steps (tokens : α → List Token) (k : TextCursor) (r : Result α × TextCursor) :
    Prop where
  moves : ∃ n, r.2 = k.move n
  emits : ∀ answer, r.1 = .ok answer → ∀ t ∈ tokens answer,
    ∃ n width lexeme, t = (k.move n).token width lexeme
  reports : ∀ e, r.1 = .error (.reported e) → ∃ cause, e = r.2.error cause

/-- What is done after moving on is done by the cursor itself. -/
theorem Steps.of_move {tokens : α → List Token} {k : TextCursor} {n : Nat}
    {r : Result α × TextCursor} (h : Steps tokens (k.move n) r) : Steps tokens k r where
  moves := by
    obtain ⟨m, hm⟩ := h.moves
    exact ⟨n + m, by rw [hm, move_add]⟩
  emits := by
    intro answer hok t ht
    obtain ⟨m, width, lexeme, heq⟩ := h.emits answer hok t ht
    exact ⟨n + m, width, lexeme, by rw [heq, move_add]⟩
  reports := h.reports

/-- Changing the answer keeps the tokens it holds. -/
theorem Steps.map {tokens : α → List Token} {tokens' : β → List Token} {k : TextCursor}
    {r : Result α × TextCursor} (h : Steps tokens k r) {f : α → β}
    (hf : ∀ answer, tokens' (f answer) = tokens answer) :
    Steps tokens' k (r.map (·.map f) id) := by
  obtain ⟨result, last⟩ := r
  refine ⟨h.moves, ?_, ?_⟩
  · intro answer hok t ht
    cases result with
    | error failure => cases hok
    | ok original =>
      cases hok
      rw [hf] at ht
      exact h.emits original rfl t ht
  · intro e herror
    cases result with
    | error failure =>
      cases herror
      exact h.reports e rfl
    | ok original => cases herror

/-- A reading moves the cursor by its width, and a failure is located there. -/
theorem settle_steps {tokens : α → List Token} (k : TextCursor) (reading : Reading α)
    (htokens : ∀ width answer, reading = .took width answer → ∀ t ∈ tokens answer,
      ∃ width lexeme, t = k.token width lexeme) : Steps tokens k (k.settle reading) := by
  cases reading with
  | took width answer =>
    refine ⟨⟨width, rfl⟩, ?_, fun e he => by cases he⟩
    intro answer' hok t ht
    cases hok
    obtain ⟨w, lexeme, rfl⟩ := htokens width answer rfl t ht
    exact ⟨0, w, lexeme, rfl⟩
  | failed width cause =>
    refine ⟨⟨width, rfl⟩, fun answer hok => (by cases hok), ?_⟩
    intro e he
    simp only [settle, Except.error.injEq, LexError.failure] at he
    split at he
    · cases he
      exact ⟨cause, rfl⟩
    · cases he

theorem readLexeme_steps (k : TextCursor) (reading : Reading Lexeme) :
    Steps (fun t => [t]) k (k.readLexeme reading) := by
  cases reading with
  | took width lexeme =>
    rw [readLexeme]
    apply settle_steps
    intro w t heq u hu
    cases heq
    exact ⟨width, lexeme, List.mem_singleton.mp hu⟩
  | failed width cause =>
    rw [readLexeme]
    apply settle_steps
    intro w t heq
    cases heq

theorem symbol_steps (k : TextCursor) : Steps Option.toList k k.symbol := by
  unfold symbol
  split
  · rename_i width lexeme _
    apply settle_steps
    intro w t heq u hu
    cases heq
    cases lexeme with
    | none => cases hu
    | some l => exact ⟨width, l, by simpa using hu⟩
  · apply settle_steps
    intro w t heq
    cases heq

theorem next_steps (k : TextCursor) : Steps Option.toList k k.next := by
  have hskip : Steps Option.toList k.skipBlanks k.next := by
    unfold next
    dsimp only
    split
    · refine ⟨⟨0, rfl⟩, ?_, fun e he => by cases he⟩
      intro answer hok t ht
      cases hok
      cases ht
    · exact (readLexeme_steps _ _).map fun answer => rfl
  exact hskip.of_move

theorem follow_steps (k : TextCursor) (lexing : Lexing) : Steps id k (k.follow lexing) := by
  induction lexing generalizing k with
  | finished gap =>
    refine ⟨⟨gap, rfl⟩, ?_, fun e he => by cases he⟩
    intro answer hok t ht
    cases hok
    cases ht
  | stuck gap width cause =>
    have hsettle : Steps id (k.move gap) (k.follow (.stuck gap width cause)) :=
      settle_steps (α := List Token) _ _ fun w answer heq => by cases heq
    exact hsettle.of_move
  | lexeme gap width lexeme tail ih =>
    have htail := ih ((k.move gap).move width)
    unfold follow
    dsimp only
    refine ⟨htail.of_move.of_move.moves, ?_, ?_⟩
    · intro answer hok t ht
      cases hrest : (((k.move gap).move width).follow tail).1 with
      | error failure => rw [hrest] at hok; cases hok
      | ok tokens =>
        rw [hrest] at hok
        cases hok
        rcases List.mem_cons.mp ht with rfl | ht
        · exact ⟨gap, width, lexeme, rfl⟩
        · exact htail.of_move.of_move.emits tokens hrest t ht
    · intro e herror
      cases hrest : (((k.move gap).move width).follow tail).1 with
      | error failure =>
        rw [hrest] at herror
        cases herror
        exact htail.reports e hrest
      | ok tokens => rw [hrest] at herror; cases herror

end TextCursor

/-- The tokens that an answer holds. -/
def TextAnswer.emitted : TextAnswer → List Token
  | base _ => []
  | source _ => []
  | token t => t.toList
  | tokens ts => ts

namespace TextCursor

/-- Every action moves the cursor on, hands out tokens of places it passed, and reports an error at
the place it reached. -/
theorem perform_steps (k : TextCursor) (action : TextAction) :
    Steps TextAnswer.emitted k (k.perform action) := by
  cases action with
  | base action =>
    apply settle_steps
    intro width answer heq t ht
    cases hread : action.read k.source.toList k.rest k.place.offset with
    | took w a => rw [hread] at heq; cases heq; cases ht
    | failed w cause => rw [hread] at heq; cases heq
  | source =>
    refine ⟨⟨0, rfl⟩, ?_, fun e he => by cases he⟩
    intro answer hok t ht
    cases hok
    cases ht
  | fail kind message =>
    rw [perform]
    apply settle_steps
    intro width answer heq
    cases heq
  | next => exact k.next_steps.map fun answer => rfl
  | literal =>
    rw [perform]
    exact (k.readLexeme_steps _).map (f := TextAnswer.token ∘ some) fun answer => rfl
  | word =>
    rw [perform]
    exact (k.readLexeme_steps _).map (f := TextAnswer.token ∘ some) fun answer => rfl
  | symbol => exact k.symbol_steps.map fun answer => rfl
  | number =>
    rw [perform]
    exact (k.readLexeme_steps _).map (f := TextAnswer.token ∘ some) fun answer => rfl
  | tokens => exact (k.follow_steps _).map fun answer => rfl

/-- A reading of no width leaves the cursor where it is. -/
theorem settle_of_width_eq_zero (k : TextCursor) {reading : Reading α} (h : reading.width = 0) :
    (k.settle reading).2 = k := by
  cases reading with
  | took width answer =>
    obtain rfl : width = 0 := h
    rfl
  | failed width cause =>
    obtain rfl : width = 0 := h
    rfl

theorem perform_atEnd (k : TextCursor) (strict : Bool) :
    (k.perform (.base (.atEnd strict))).2 = k := by
  apply settle_of_width_eq_zero
  unfold Action.read
  cases k.rest with
  | nil => cases strict <;> rfl
  | cons c rest => rfl

theorem perform_peek (k : TextCursor) (strict : Bool) (ahead : Int) :
    (k.perform (.base (.peek strict ahead))).2 = k := by
  apply settle_of_width_eq_zero
  unfold Action.read
  cases k.rest with
  | nil => cases strict <;> rfl
  | cons c rest => rfl

/-! ## Runs -/

/-- The cursor that a run of actions leads to. -/
def reached (k : TextCursor) (actions : List TextAction) : TextCursor :=
  actions.foldl (fun k action => (k.perform action).2) k

theorem performAll_cons (k : TextCursor) (action : TextAction) (others : List TextAction) :
    k.performAll (action :: others) =
      ((k.perform action).1, (k.perform action).2.place) ::
        (k.perform action).2.performAll others := rfl

/-- A run goes on from the cursor that its first part leads to. -/
theorem performAll_append (k : TextCursor) (actions others : List TextAction) :
    k.performAll (actions ++ others) =
      k.performAll actions ++ (k.reached actions).performAll others := by
  induction actions generalizing k with
  | nil => rfl
  | cons action actions ih =>
    rw [List.cons_append, performAll_cons, performAll_cons, ih, List.cons_append]
    rfl

/-- A run of actions only moves the cursor on. -/
theorem exists_reached_eq_move (k : TextCursor) (actions : List TextAction) :
    ∃ n, k.reached actions = k.move n := by
  induction actions generalizing k with
  | nil => exact ⟨0, rfl⟩
  | cons action actions ih =>
    obtain ⟨n, hn⟩ := (k.perform_steps action).moves
    obtain ⟨m, hm⟩ := ih (k.perform action).2
    refine ⟨n + m, ?_⟩
    rw [move_add, ← hn, ← hm]
    rfl

/-- The place of a cursor that has moved on from the start of a source is that of its offset. -/
theorem place_start_move (source : String) (margin : Int) (n : Nat) :
    ((start source margin).move n).place.offset ≤ source.length ∧
      ((start source margin).move n).place =
        .after margin (source.toList.take ((start source margin).move n).place.offset) := by
  have h := ((isPlaced_start source margin).move n).place_eq
  rw [source_move, margin_move] at h
  exact h

/-- After any run of actions on the cursor of a source, whether they failed or not: the run is
continued from the cursor that it led to; this cursor is inside the source, and its row and column
are those of its offset; the next action does not move it back; looking and failing do not move it
at all; and each token that the next action hands out, and the error that it reports, has the row
and column of its own offset. -/
theorem performAll_places (source : String) (margin : Int) (actions : List TextAction)
    (action : TextAction) :
    let k := (start source margin).reached actions
    let step := k.perform action
    (start source margin).performAll (actions ++ [action]) =
        (start source margin).performAll actions ++ [(step.1, step.2.place)] ∧
      k.place.offset ≤ source.length ∧
      k.place = .after margin (source.toList.take k.place.offset) ∧
      k.place.offset ≤ step.2.place.offset ∧
      (∀ strict, (k.perform (.base (.atEnd strict))).2 = k) ∧
      (∀ strict ahead, (k.perform (.base (.peek strict ahead))).2 = k) ∧
      (∀ kind message, (k.perform (.fail kind message)).2 = k) ∧
      (∀ answer, step.1 = .ok answer → ∀ t ∈ answer.emitted, ∃ offset ≤ source.length,
        t.position.offset = offset ∧
        t.position.row = (Place.after margin (source.toList.take offset)).row ∧
        t.position.column = (Place.after margin (source.toList.take offset)).column) ∧
      (∀ e, step.1 = .error (.reported e) → ∃ offset ≤ source.length,
        e.offset = offset ∧
        e.row = (Place.after margin (source.toList.take offset)).row ∧
        e.column = (Place.after margin (source.toList.take offset)).column) := by
  intro k step
  have hsteps : Steps TextAnswer.emitted k step := k.perform_steps action
  obtain ⟨n, hk⟩ : ∃ n, k = (start source margin).move n := exists_reached_eq_move _ _
  have hplace := place_start_move source margin n
  rw [← hk] at hplace
  refine ⟨performAll_append _ _ _, hplace.1, hplace.2, ?_, k.perform_atEnd, k.perform_peek,
    fun _ _ => rfl, ?_, ?_⟩
  · obtain ⟨m, hm⟩ := hsteps.moves
    rw [hm, offset_move]
    omega
  · intro answer hok t ht
    obtain ⟨m, width, lexeme, rfl⟩ := hsteps.emits answer hok t ht
    have hmoved := place_start_move source margin (n + m)
    rw [move_add, ← hk] at hmoved
    refine ⟨_, hmoved.1, rfl, ?_, ?_⟩
    · rw [← hmoved.2]
      rfl
    · rw [← hmoved.2]
      rfl
  · intro e herror
    obtain ⟨cause, rfl⟩ := hsteps.reports e herror
    obtain ⟨m, hm⟩ := hsteps.moves
    have hmoved := place_start_move source margin (n + m)
    rw [move_add, ← hk, ← hm] at hmoved
    refine ⟨_, hmoved.1, rfl, ?_, ?_⟩
    · rw [← hmoved.2]
      rfl
    · rw [← hmoved.2]
      rfl

end TextCursor

end ScriptFront
