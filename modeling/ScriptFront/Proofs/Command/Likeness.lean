import ScriptFront.Proofs.Command.Grammar
import ScriptFront.Proofs.Lexing.Tokens

/-!
# Trees of tokens that stand elsewhere

Where tokens stand has no part in grouping them. Tokens with the same contents make up commands
with the same contents, or go wrong in the same way at the same index (`buildTree_alike`).
-/

namespace ScriptFront

/-- What the tokens of a command are, wherever they stand. -/
def Command.contents (c : Command) : List (Kind × Value × Int) :=
  c.body.map Token.content

/-- Whether two results of building a tree are the same, but for the places of tokens and the source
and margin that an error shows: commands with the same contents, errors of the same text, kind and
index that point at tokens with the same content, or the same breakdown. -/
inductive TreesAlike : TokenCursor.Result (List Command) → TokenCursor.Result (List Command) → Prop
  where
  | ok {commands others : List Command}
      (hcontents : commands.map Command.contents = others.map Command.contents) :
      TreesAlike (.ok commands) (.ok others)
  | reported {e other : ParseError} (htext : e.text = other.text) (hkind : e.kind = other.kind)
      (hindex : e.index = other.index)
      (htoken : e.token.map Token.content = other.token.map Token.content) :
      TreesAlike (.error (.reported e)) (.error (.reported other))
  | abort (reason : Breakdown) : TreesAlike (.error (.abort reason)) (.error (.abort reason))

theorem Token.kind_eq_of_content {t u : Token} (h : t.content = u.content) : t.kind = u.kind :=
  congrArg Prod.fst h

theorem Token.value_eq_of_content {t u : Token} (h : t.content = u.content) : t.value = u.value :=
  congrArg (·.2.1) h

namespace Command

/-! ## The grammar sees contents only -/

/-- A kind that no token has is had by no token with the same content. -/
theorem forall_kind_ne {tokens others : List Token}
    (hsame : tokens.map Token.content = others.map Token.content) {k : Kind}
    (h : ∀ t ∈ tokens, t.kind ≠ k) : ∀ t ∈ others, t.kind ≠ k := by
  intro u hu
  have hmem : u.content ∈ tokens.map Token.content := by
    rw [hsame]
    exact List.mem_map_of_mem hu
  obtain ⟨t, ht, hcontent⟩ := List.mem_map.mp hmem
  rw [← Token.kind_eq_of_content hcontent]
  exact h t ht

/-- Tokens with the contents of commands make up commands with the same contents. -/
theorem Framed.exists_of_contents {commands : List Command} {tokens others : List Token}
    (h : Framed commands tokens)
    (hsame : tokens.map Token.content = others.map Token.content) :
    ∃ otherCommands, Framed otherCommands others ∧
      commands.map contents = otherCommands.map contents := by
  induction h generalizing others with
  | nil =>
    rw [List.map_nil, eq_comm, List.map_eq_nil_iff] at hsame
    subst hsame
    exact ⟨[], .nil, rfl⟩
  | @cons opener closer body tokens commands hopener hbody hcloser _ ih =>
    -- the other tokens split where these do: an opener, a body, a closer, and the rest
    rw [List.map_cons, List.map_append, List.map_cons, eq_comm] at hsame
    obtain ⟨opener', rest, rfl, hopener', hrest⟩ := List.map_eq_cons_iff.mp hsame
    obtain ⟨body', rest', rfl, hbody', hrest'⟩ := List.map_eq_append_iff.mp hrest
    obtain ⟨closer', others, rfl, hcloser', hothers⟩ := List.map_eq_cons_iff.mp hrest'
    obtain ⟨otherCommands, hframed, hcontents⟩ := ih hothers.symm
    refine ⟨⟨body'⟩ :: otherCommands, .cons ?_ ?_ ?_ hframed, ?_⟩
    · rw [Token.kind_eq_of_content hopener', hopener]
    · exact forall_kind_ne hbody'.symm hbody
    · rw [Token.kind_eq_of_content hcloser', hcloser]
    · rw [List.map_cons, List.map_cons, hcontents, contents, contents, hbody']

/-- A token that strays is one with the same content in other tokens, at the same index. -/
theorem StrayAt.exists_of_contents {tokens others : List Token} {index : Nat} {t : Token}
    (h : StrayAt tokens index t)
    (hsame : tokens.map Token.content = others.map Token.content) :
    ∃ u, StrayAt others index u ∧ t.content = u.content := by
  obtain ⟨hget, ⟨commands, hframed⟩, hkind⟩ := h
  have hget' := congrArg (·[index]?) hsame
  simp only [List.getElem?_map, hget, Option.map_some] at hget'
  obtain ⟨u, hu, hcontent⟩ := Option.map_eq_some_iff.mp hget'.symm
  have htake : (tokens.take index).map Token.content = (others.take index).map Token.content := by
    rw [List.map_take, List.map_take, hsame]
  obtain ⟨otherCommands, hframed', -⟩ := hframed.exists_of_contents htake
  refine ⟨u, ⟨hu, ⟨otherCommands, hframed'⟩, ?_⟩, hcontent.symm⟩
  rw [Token.kind_eq_of_content hcontent]
  exact hkind

/-- Tokens with the contents of a command that is left open leave it open. -/
theorem LeftOpen.of_contents {tokens others : List Token} (h : LeftOpen tokens)
    (hsame : tokens.map Token.content = others.map Token.content) : LeftOpen others := by
  obtain ⟨commands, front, opener, rest, rfl, hframed, hopener, hrest⟩ := h
  rw [List.map_append, List.map_cons, eq_comm] at hsame
  obtain ⟨front', back, rfl, hfront, hback⟩ := List.map_eq_append_iff.mp hsame
  obtain ⟨opener', rest', rfl, hopener', hrest'⟩ := List.map_eq_cons_iff.mp hback
  obtain ⟨otherCommands, hframed', -⟩ := hframed.exists_of_contents hfront.symm
  refine ⟨otherCommands, front', opener', rest', rfl, hframed', ?_,
    forall_kind_ne hrest'.symm hrest⟩
  rw [Token.kind_eq_of_content hopener', hopener]

end Command

/-! ## Trees -/

/-- Failures for causes in the same words are alike, at the same index and if they point at tokens
with the same content. -/
theorem TokenCursor.failure_alike {k l : TokenCursor} {cause other : Cause}
    {culprit otherCulprit : Option Token} (hindex : k.index = l.index)
    (htext : cause.message = other.message) (hkind : cause.kind = other.kind)
    (hstatable : cause.isStatable = other.isStatable)
    (htoken : (culprit.or k.current?).map Token.content =
      (otherCulprit.or l.current?).map Token.content) :
    TreesAlike (.error (k.failure cause culprit)) (.error (l.failure other otherCulprit)) := by
  unfold failure
  rw [← hstatable]
  by_cases h : cause.isStatable = true
  · rw [if_pos h, if_pos h]
    exact .reported htext hkind (congrArg Int.ofNat hindex) htoken
  · rw [if_neg h, if_neg h]
    exact .abort _

/-- Where the grouping fails, so does the tree. -/
theorem buildTree_of_failed {tokens : List Token} {n : Nat} {cause : Cause}
    (h : Command.group tokens = .failed n cause) (source : Option String) (margin : Int) :
    buildTree tokens source margin =
      .error (((TokenCursor.start tokens source margin).move n).failure cause
        (TokenCursor.culprit? cause)) := by
  rw [buildTree_eq, h, TokenCursor.settle]

/-- Trees of tokens with the same contents are alike. -/
theorem buildTree_alike {tokens others : List Token}
    (hsame : tokens.map Token.content = others.map Token.content)
    (source otherSource : Option String) (margin otherMargin : Int) :
    TreesAlike (buildTree tokens source margin) (buildTree others otherSource otherMargin) := by
  have hlength : tokens.length = others.length := by
    rw [← List.length_map Token.content, hsame, List.length_map]
  by_cases hframed : ∃ commands, Command.Framed commands tokens
  · obtain ⟨commands, hframed⟩ := hframed
    obtain ⟨otherCommands, hframed', hcontents⟩ := hframed.exists_of_contents hsame
    rw [buildTree_of_framed hframed, buildTree_of_framed hframed']
    exact .ok hcontents
  · obtain ⟨index, t, hstray⟩ | hopen := Command.strayAt_or_leftOpen hframed
    · obtain ⟨u, hstray', hcontent⟩ := hstray.exists_of_contents hsame
      have hkind := Token.kind_eq_of_content hcontent
      have hvalue := Token.value_eq_of_content hcontent
      rw [buildTree_of_failed hstray.group_eq, buildTree_of_failed hstray'.group_eq]
      apply TokenCursor.failure_alike
      · rw [TokenCursor.index_start_move _ _ hstray.index_le,
          TokenCursor.index_start_move _ _ hstray'.index_le]
      · unfold Cause.message
        dsimp only
        rw [hkind, hvalue]
      · rfl
      · rw [Cause.isStatable, Cause.isStatable, hvalue]
      · exact congrArg some hcontent
    · have hindex := TokenCursor.index_start_move source margin (Nat.le_refl tokens.length)
      have hindex' :=
        TokenCursor.index_start_move otherSource otherMargin (Nat.le_refl others.length)
      rw [buildTree_of_failed hopen.group_eq,
        buildTree_of_failed (hopen.of_contents hsame).group_eq]
      refine TokenCursor.failure_alike ?_ rfl rfl rfl ?_
      · rw [hindex, hindex', hlength]
      · -- no token is named, so both point at the last one
        have hlast := congrArg List.getLast? hsame
        rw [List.getLast?_map, List.getLast?_map] at hlast
        show Option.map _ (TokenCursor.current? _) = Option.map _ (TokenCursor.current? _)
        rw [TokenCursor.current?_of_index_eq hindex, TokenCursor.current?_of_index_eq hindex']
        exact hlast

end ScriptFront
