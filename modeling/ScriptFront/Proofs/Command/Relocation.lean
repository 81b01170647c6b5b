import ScriptFront.Proofs.Command.Grammar

/-!
# Trees of tokens that are put elsewhere

Grouping asks a token for its kind, and an error shows kind and value. A change of tokens that keeps
both (`KeepsLexeme`), such as one of their places, is therefore found again in the commands and in
the error:

* `Command.group_map`: grouping commutes with the change;
* `buildTree_append_map`: behind complete commands, changed tokens make up the changed commands, or
  they go wrong as before, as many tokens further on as stand before them.
-/

namespace ScriptFront

/-- Whether a change of tokens keeps what they are. -/
structure KeepsLexeme (f : Token → Token) : Prop where
  kind : ∀ t, (f t).kind = t.kind
  value : ∀ t, (f t).value = t.value

/-- A cause with the token that it names changed. -/
def Cause.mapToken (f : Token → Token) : Cause → Cause
  | unexpectedToken t => unexpectedToken (f t)
  | cause => cause

namespace Command

/-- A command with its tokens changed. -/
def map (f : Token → Token) (c : Command) : Command :=
  ⟨c.body.map f⟩

/-- What grouping gives, with the tokens changed. -/
def mapReading (f : Token → Token) : Reading (List Command) → Reading (List Command)
  | .took n commands => .took n (commands.map (map f))
  | .failed n cause => .failed n (cause.mapToken f)

/-! ## Grouping -/

variable {f : Token → Token}

theorem forall_kind_ne_map (hf : KeepsLexeme f) {tokens : List Token} {k : Kind}
    (h : ∀ t ∈ tokens, t.kind ≠ k) : ∀ t ∈ tokens.map f, t.kind ≠ k := by
  intro u hu
  obtain ⟨t, ht, rfl⟩ := List.mem_map.mp hu
  rw [hf.kind]
  exact h t ht

/-- Changed commands are framed by the changed tokens. -/
theorem Framed.map (hf : KeepsLexeme f) {commands : List Command} {tokens : List Token}
    (h : Framed commands tokens) : Framed (commands.map (Command.map f)) (tokens.map f) := by
  induction h with
  | nil => exact .nil
  | cons hopener hbody hcloser _ ih =>
    simp only [List.map_cons, List.map_append]
    refine .cons ?_ (forall_kind_ne_map hf hbody) ?_ ih
    · rw [hf.kind, hopener]
    · rw [hf.kind, hcloser]

/-- Grouping commutes with a change that keeps what tokens are. -/
theorem group_map (hf : KeepsLexeme f) (tokens : List Token) :
    group (tokens.map f) = mapReading f (group tokens) := by
  obtain ⟨commands, front, rest, rfl, hframed, hrest⟩ := exists_framed_front tokens
  have hrest' : group (rest.map f) = mapReading f (group rest) := by
    obtain rfl | ⟨t, others, rfl, ht⟩ | ⟨opener, others, rfl, hopener, hothers⟩ := hrest
    · simp [group_nil, mapReading]
    · have ht' : (f t).kind ≠ .symbol .divide := by
        rw [hf.kind]
        exact ht
      rw [List.map_cons, group_stray _ ht', group_stray _ ht]
      rfl
    · have hopener' : (f opener).kind = .symbol .divide := by rw [hf.kind, hopener]
      rw [List.map_cons, group_open hopener' (forall_kind_ne_map hf hothers),
        group_open hopener hothers, List.length_map]
      rfl
  rw [List.map_append, (hframed.map hf).group_append, hframed.group_append, hrest',
    List.length_map]
  cases group rest with
  | took n others => simp [mapReading, Reading.extend]
  | failed n cause => simp [mapReading, Reading.extend]

/-- Grouping fails inside the tokens or at their end, and never on no tokens. -/
theorem bounds_of_group {tokens : List Token} {n : Nat} {cause : Cause}
    (h : group tokens = .failed n cause) : n ≤ tokens.length ∧ tokens ≠ [] := by
  by_cases hframed : ∃ commands, Framed commands tokens
  · obtain ⟨commands, hframed⟩ := hframed
    rw [hframed.group_eq] at h
    cases h
  · have hne : tokens ≠ [] := by
      rintro rfl
      exact hframed ⟨[], .nil⟩
    obtain ⟨index, t, hstray⟩ | hopen := strayAt_or_leftOpen hframed
    · rw [hstray.group_eq] at h
      cases h
      exact ⟨hstray.index_le, hne⟩
    · rw [hopen.group_eq] at h
      cases h
      exact ⟨Nat.le_refl _, hne⟩

end Command

/-! ## Errors -/

namespace Cause

variable {f : Token → Token}

theorem message_mapToken (hf : KeepsLexeme f) (cause : Cause) :
    (cause.mapToken f).message = cause.message := by
  cases cause with
  | unexpectedToken t =>
    unfold mapToken message
    dsimp only
    rw [hf.kind, hf.value]
  | _ => rfl

theorem isStatable_mapToken (hf : KeepsLexeme f) (cause : Cause) :
    (cause.mapToken f).isStatable = cause.isStatable := by
  cases cause with
  | unexpectedToken t =>
    unfold mapToken isStatable
    dsimp only
    rw [hf.value]
  | _ => rfl

theorem kind_mapToken (cause : Cause) : (cause.mapToken f).kind = cause.kind := by
  cases cause <;> rfl

theorem culprit?_mapToken (cause : Cause) :
    TokenCursor.culprit? (cause.mapToken f) = (TokenCursor.culprit? cause).map f := by
  cases cause <;> rfl

end Cause

/-- The error of changed tokens behind others, which are shown as parts of another source. -/
def ParseError.relocated (f : Token → Token) (before : Nat) (source : Option String) (margin : Int)
    (e : ParseError) : ParseError :=
  { e with index := e.index + before, token := e.token.map f, source := source, margin := margin }

namespace TokenCursor

variable {f : Token → Token}

/-- The token at the cursor is the changed one, behind others. -/
theorem current?_append_map (front : List Token) {tokens : List Token} {n : Nat}
    (hn : n ≤ tokens.length) (hne : tokens ≠ []) (source otherSource : Option String)
    (margin otherMargin : Int) :
    ((start (front ++ tokens.map f) otherSource otherMargin).move (front.length + n)).current? =
      ((start tokens source margin).move n).current?.map f := by
  have hpos := List.length_pos_iff.mpr hne
  have hle : front.length + n ≤ (front ++ tokens.map f).length := by
    rw [List.length_append, List.length_map]
    omega
  rw [current?, current?, index_start_move otherSource otherMargin hle,
    index_start_move source margin hn]
  show (front ++ tokens.map f)[min (front.length + n) ((front ++ tokens.map f).length - 1)]? =
    tokens[min n (tokens.length - 1)]?.map f
  have hindex : min (front.length + n) ((front ++ tokens.map f).length - 1) - front.length =
      min n (tokens.length - 1) := by
    rw [List.length_append, List.length_map]
    omega
  rw [List.getElem?_append_right, hindex, List.getElem?_map]
  rw [List.length_append, List.length_map]
  omega

/-- A failure is relocated with the tokens that it is met in. -/
theorem failure_append_map (hf : KeepsLexeme f) (front : List Token) {tokens : List Token} {n : Nat}
    (hn : n ≤ tokens.length) (hne : tokens ≠ []) (cause : Cause)
    (source otherSource : Option String) (margin otherMargin : Int) :
    ((start (front ++ tokens.map f) otherSource otherMargin).move (front.length + n)).failure
        (cause.mapToken f) (culprit? (cause.mapToken f)) =
      match ((start tokens source margin).move n).failure cause (culprit? cause) with
      | .reported e => .reported (e.relocated f front.length otherSource otherMargin)
      | .abort reason => .abort reason := by
  have hle : front.length + n ≤ (front ++ tokens.map f).length := by
    rw [List.length_append, List.length_map]
    omega
  unfold failure
  rw [Cause.isStatable_mapToken hf]
  by_cases hstatable : cause.isStatable = true
  · rw [if_pos hstatable, if_pos hstatable]
    dsimp only
    rw [error, error, Cause.message_mapToken hf, Cause.kind_mapToken, Cause.culprit?_mapToken,
      current?_append_map front hn hne source otherSource margin otherMargin,
      index_start_move otherSource otherMargin hle, index_start_move source margin hn,
      ParseError.relocated, ← Option.map_or, Int.natCast_add, Int.add_comm]
    rfl
  · rw [if_neg hstatable, if_neg hstatable]

end TokenCursor

/-- Behind complete commands, changed tokens make up the changed commands. If they go wrong, it is
for the same reason, at the index that is as much larger as there are tokens before. -/
theorem buildTree_append_map {f : Token → Token} (hf : KeepsLexeme f) {commands : List Command}
    {front : List Token} (h : Command.Framed commands front) (tokens : List Token)
    (source otherSource : Option String) (margin otherMargin : Int) :
    buildTree (front ++ tokens.map f) otherSource otherMargin =
      match buildTree tokens source margin with
      | .ok others => .ok (commands ++ others.map (Command.map f))
      | .error (.reported e) =>
        .error (.reported (e.relocated f front.length otherSource otherMargin))
      | .error (.abort reason) => .error (.abort reason) := by
  rw [buildTree_eq, buildTree_eq, h.group_append, Command.group_map hf]
  cases hgroup : Command.group tokens with
  | took n others => rfl
  | failed n cause =>
    obtain ⟨hn, hne⟩ := Command.bounds_of_group hgroup
    have hfailure := TokenCursor.failure_append_map hf front hn hne cause source otherSource margin
      otherMargin
    simp only [Command.mapReading, Reading.extend, TokenCursor.settle, hfailure]
    cases ((TokenCursor.start tokens source margin).move n).failure cause
      (TokenCursor.culprit? cause) with
    | reported e => rfl
    | abort reason => rfl

end ScriptFront
