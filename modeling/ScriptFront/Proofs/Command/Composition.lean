import ScriptFront.Proofs.Command.Relocation

/-!
# Trees of lists of tokens put together

What more tokens do to a tree depends on how the tokens before them end:

* behind complete commands they make up their own tree (`buildTree_append_of_ok`);
* behind a stray token they are not looked at (`Command.StrayAt.buildTree_front_append`);
* behind a command that is left open they close it or leave it open (`Command.LeftOpen.append`,
  `Command.LeftOpen.framed_append`).

`buildTree_append` puts the three together.
-/

namespace ScriptFront

namespace Command

theorem map_id (c : Command) : c.map id = c := by
  rw [map, List.map_id]

/-! ## Tokens that go wrong, with more tokens behind them -/

theorem Framed.append {commands others : List Command} {front rest : List Token}
    (h : Framed commands front) (hrest : Framed others rest) :
    Framed (commands ++ others) (front ++ rest) := by
  induction h with
  | nil => exact hrest
  | cons hopener hbody hcloser _ ih =>
    rw [List.cons_append, List.cons_append, List.append_assoc, List.cons_append]
    exact .cons hopener hbody hcloser ih

/-- A token strays whatever comes after it. -/
theorem StrayAt.append {front : List Token} {index : Nat} {t : Token} (h : StrayAt front index t)
    (rest : List Token) : StrayAt (front ++ rest) index t := by
  have hle := h.index_le
  obtain ⟨hget, ⟨commands, hframed⟩, hkind⟩ := h
  refine ⟨?_, ⟨commands, ?_⟩, hkind⟩
  · obtain ⟨hlt, _⟩ := List.getElem?_eq_some_iff.mp hget
    rw [List.getElem?_append_left hlt, hget]
  · rw [List.take_append_of_le_length hle]
    exact hframed

/-- A command stays open as long as no closer comes. -/
theorem LeftOpen.append {front rest : List Token} (h : LeftOpen front)
    (hrest : ∀ t ∈ rest, t.kind ≠ .symbol .terminator) : LeftOpen (front ++ rest) := by
  obtain ⟨commands, before, opener, body, rfl, hframed, hopener, hbody⟩ := h
  refine ⟨commands, before, opener, body ++ rest, ?_, hframed, hopener, ?_⟩
  · rw [List.append_assoc, List.cons_append]
  · intro t ht
    obtain ht | ht := List.mem_append.mp ht
    · exact hbody t ht
    · exact hrest t ht

/-- The next closer completes a command that is left open. -/
theorem LeftOpen.framed_append {front : List Token} (h : LeftOpen front) {closer : Token}
    (hcloser : closer.kind = .symbol .terminator) :
    ∃ commands, Framed commands (front ++ [closer]) := by
  obtain ⟨commands, before, opener, body, rfl, hframed, hopener, hbody⟩ := h
  have hlast : Framed [⟨body⟩] (opener :: (body ++ [closer])) :=
    .cons hopener hbody hcloser .nil
  refine ⟨commands ++ [⟨body⟩], ?_⟩
  rw [List.append_assoc, List.cons_append]
  exact hframed.append hlast

/-- Behind a stray token nothing changes: the failure is the same one. -/
theorem StrayAt.buildTree_front_append {front : List Token} {index : Nat} {t : Token}
    (h : StrayAt front index t) (rest : List Token) (source : Option String) (margin : Int) :
    buildTree (front ++ rest) source margin = buildTree front source margin := by
  -- both cursors stop at the stray token, and an error there looks no further
  have hfront := TokenCursor.index_start_move source margin h.index_le
  have hwhole := TokenCursor.index_start_move source margin (h.append rest).index_le
  rw [buildTree_eq, buildTree_eq, (h.append rest).group_eq, h.group_eq, TokenCursor.settle,
    TokenCursor.settle, TokenCursor.failure, TokenCursor.failure, TokenCursor.error,
    TokenCursor.error, hfront, hwhole]
  rfl

end Command

/-! ## Failures and what they are about -/

theorem strayAt_of_unexpectedToken {tokens : List Token} {source : Option String} {margin : Int}
    {e : ParseError} (h : buildTree tokens source margin = .error (.reported e))
    (hkind : e.kind = some .unexpectedToken) : ∃ index t, Command.StrayAt tokens index t := by
  obtain ⟨index, t, hstray, -⟩ | ⟨-, last, -, e', he, hkind', -⟩ :=
    strayAt_or_leftOpen_of_buildTree h
  · exact ⟨index, t, hstray⟩
  · cases he
    rw [hkind] at hkind'
    cases hkind'

theorem leftOpen_of_unterminatedSpan {tokens : List Token} {source : Option String} {margin : Int}
    {e : ParseError} (h : buildTree tokens source margin = .error (.reported e))
    (hkind : e.kind = some .unterminatedSpan) : Command.LeftOpen tokens := by
  obtain ⟨index, t, -, hfailure⟩ | ⟨hopen, -⟩ := strayAt_or_leftOpen_of_buildTree h
  · split at hfailure
    · obtain ⟨e', he, hkind', -⟩ := hfailure
      cases he
      rw [hkind] at hkind'
      cases hkind'
    · cases hfailure
  · exact hopen

/-- The tree breaks off at a stray token whose value is too long to be shown, for no other
reason. -/
theorem strayAt_of_abort {tokens : List Token} {source : Option String} {margin : Int}
    {reason : Breakdown} (h : buildTree tokens source margin = .error (.abort reason)) :
    reason = .integerTooLong ∧
      ∃ index t, Command.StrayAt tokens index t ∧ t.value.isWritable = false := by
  obtain ⟨index, t, hstray, hfailure⟩ | ⟨-, last, -, e, he, -⟩ :=
    strayAt_or_leftOpen_of_buildTree h
  · split at hfailure
    · obtain ⟨e, he, -⟩ := hfailure
      cases he
    · rename_i hvalue
      cases hfailure
      exact ⟨rfl, index, t, hstray, Bool.eq_false_iff.mpr hvalue⟩
  · cases he

/-! ## Two lists of tokens -/

/-- The error of tokens that follow others. -/
def ParseError.later (before : Nat) (e : ParseError) : ParseError :=
  { e with index := e.index + before }

/-- Behind complete commands, tokens have their own tree or their own failure. -/
theorem buildTree_append_of_ok {front : List Token} {source : Option String} {margin : Int}
    {commands : List Command} (h : buildTree front source margin = .ok commands)
    (rest : List Token) :
    (∀ others, buildTree rest source margin = .ok others →
        buildTree (front ++ rest) source margin = .ok (commands ++ others)) ∧
      (∀ e, buildTree rest source margin = .error (.reported e) →
        buildTree (front ++ rest) source margin = .error (.reported (e.later front.length))) ∧
      ∀ reason, buildTree rest source margin = .error (.abort reason) →
        buildTree (front ++ rest) source margin = .error (.abort reason) := by
  have hid : KeepsLexeme id := ⟨fun _ => rfl, fun _ => rfl⟩
  have happend := buildTree_append_map hid (framed_of_buildTree h) rest source source margin margin
  rw [List.map_id] at happend
  refine ⟨?_, ?_, ?_⟩
  · intro others hothers
    rw [happend, hothers, funext Command.map_id]
    simp
  · intro e he
    obtain ⟨rfl, rfl⟩ := source_of_buildTree he
    rw [happend, he]
    simp [ParseError.relocated, ParseError.later]
  · intro reason hreason
    rw [happend, hreason]

/-- The tree of two lists of tokens. Behind complete commands the second list has its own commands,
or its own error, as many tokens further on as stand before. Behind a stray token it changes
nothing. A command that is left open can be closed by it, and stays open if it has no closer. Where
the value of a stray token is too long to be shown, there is no error to report, in either list. -/
theorem buildTree_append (front : List Token) (source : Option String) (margin : Int) :
    (∀ commands, buildTree front source margin = .ok commands → ∀ rest,
      (∀ others, buildTree rest source margin = .ok others →
        buildTree (front ++ rest) source margin = .ok (commands ++ others)) ∧
      (∀ failure, buildTree rest source margin = .error failure →
        (∃ e e', failure = .reported e ∧
          buildTree (front ++ rest) source margin = .error (.reported e') ∧ e'.kind = e.kind ∧
          e'.text = e.text ∧ e'.token = e.token ∧ e'.index = e.index + front.length) ∨
        (failure = .abort .integerTooLong ∧
          (∃ index t, Command.StrayAt rest index t ∧ t.value.isWritable = false) ∧
          buildTree (front ++ rest) source margin = .error (.abort .integerTooLong)))) ∧
    (∀ e, buildTree front source margin = .error (.reported e) →
      e.kind = some .unexpectedToken →
        ∀ rest, buildTree (front ++ rest) source margin = .error (.reported e)) ∧
    (∀ e, buildTree front source margin = .error (.reported e) →
      e.kind = some .unterminatedSpan →
        (∃ rest commands, buildTree (front ++ rest) source margin = .ok commands) ∧
        ∀ rest, (∀ t ∈ rest, t.kind ≠ .symbol .terminator) →
          ∃ e', buildTree (front ++ rest) source margin = .error (.reported e') ∧
            e'.kind = some .unterminatedSpan) ∧
    (∀ reason, buildTree front source margin = .error (.abort reason) →
      ∀ rest, buildTree (front ++ rest) source margin = .error (.abort reason)) := by
  refine ⟨?_, ?_, ?_, ?_⟩
  · intro commands hfront rest
    obtain ⟨hok, hreported, habort⟩ := buildTree_append_of_ok hfront rest
    refine ⟨hok, ?_⟩
    intro failure hfailure
    cases failure with
    | reported e => exact .inl ⟨e, _, rfl, hreported e hfailure, rfl, rfl, rfl, rfl⟩
    | abort reason =>
      obtain ⟨rfl, hstray⟩ := strayAt_of_abort hfailure
      exact .inr ⟨rfl, hstray, habort _ hfailure⟩
  · intro e hfront hkind rest
    obtain ⟨index, t, hstray⟩ := strayAt_of_unexpectedToken hfront hkind
    rw [hstray.buildTree_front_append, hfront]
  · intro e hfront hkind
    have hopen := leftOpen_of_unterminatedSpan hfront hkind
    refine ⟨?_, ?_⟩
    · -- any closer will do, wherever it stands
      let closer : Token := ⟨.symbol .terminator, .text ";", ⟨1, 0, 0, 1⟩⟩
      have hcloser : closer.kind = .symbol .terminator := rfl
      obtain ⟨commands, hframed⟩ := hopen.framed_append hcloser
      exact ⟨_, commands, buildTree_of_framed hframed source margin⟩
    · intro rest hrest
      obtain ⟨failure, last, hbuild, -, e', rfl, hkind', -⟩ :=
        buildTree_of_leftOpen (hopen.append hrest) source margin
      exact ⟨e', hbuild, hkind'⟩
  · intro reason hfront rest
    obtain ⟨-, index, t, hstray, -⟩ := strayAt_of_abort hfront
    rw [hstray.buildTree_front_append, hfront]

/-- Behind a complete command, a stray token with a value too long to be shown is not reported. -/
theorem buildTree_append_unwritable_stray :
    let front : List Token :=
      [⟨.symbol .divide, .text "/", ⟨1, 0, 0, 1⟩⟩, ⟨.symbol .terminator, .text ";", ⟨1, 1, 1, 1⟩⟩]
    let rest : List Token := [⟨.number (.signed .int), .int Text.unwritable, ⟨1, 3, 3, 1⟩⟩]
    buildTree front = .ok [⟨[]⟩] ∧ (¬ ∃ others, buildTree rest = .ok others) ∧
      ¬ ∃ e, buildTree (front ++ rest) = .error (.reported e) := by
  intro front rest
  have hframed : Command.Framed [⟨[]⟩] front := .cons rfl (by simp) rfl .nil
  have hstray :
      Command.StrayAt rest 0 ⟨.number (.signed .int), .int Text.unwritable, ⟨1, 3, 3, 1⟩⟩ :=
    ⟨rfl, ⟨[], .nil⟩, by decide⟩
  have hwhole : Command.StrayAt (front ++ rest) 2
      ⟨.number (.signed .int), .int Text.unwritable, ⟨1, 3, 3, 1⟩⟩ :=
    ⟨rfl, ⟨_, hframed⟩, by decide⟩
  have hvalue : ¬ (Value.int Text.unwritable).isWritable = true := by
    rw [Value.isWritable, Text.isWritable, Int.natAbs_natCast, decide_eq_true_eq]
    exact Nat.lt_irrefl _
  refine ⟨buildTree_of_framed hframed none 0, ?_, not_reported_of_strayAt hwhole hvalue none 0⟩
  rintro ⟨others, hothers⟩
  exact hstray.not_framed ⟨others, framed_of_buildTree hothers⟩

end ScriptFront
