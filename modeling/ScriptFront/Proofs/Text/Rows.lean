import Mathlib.Data.List.DropRight
import ScriptFront.Proofs.Cursor.Place
import ScriptFront.Text.Line

/-!
# Rows and lines of a text

Places count rows, which only newlines end. What is displayed are lines, which every line break
ends. So a row is displayed as one line or as several:

* `View` is a text as seen from an offset in it: the rows above, and the characters to both sides in
  the same row. `View.place_eq` and `View.getElem?_rows` say how places count rows;
* `View.lines_eq`: the lines of a text are those of its rows, one row after the other;
* `IsUnbroken`, `length_lines_row`: the rows that are one line each. If all rows above are, rows and
  lines have the same numbers (`View.getElem?_lines`), and else the line with the number of a row
  stands above it (`View.exists_line_above`);
* `shownPart`, `shownLine_first`: what of a row is in its first line. It is the whole row for the
  rows of `IsWhole`.
-/

namespace ScriptFront

namespace Text

/-- The rows of a text, without the newlines that end them. -/
def rows (text : List Char) : List (List Char) :=
  text.splitOn '\n'

/-- Rows below each other, each with its newline. -/
def stacked (rows : List (List Char)) : List Char :=
  rows.flatMap (· ++ ['\n'])

theorem stacked_cons (row : List Char) (others : List (List Char)) :
    stacked (row :: others) = row ++ '\n' :: stacked others := by
  rw [stacked, List.flatMap_cons, List.append_assoc]
  rfl

/-- A text starts with its first row. -/
theorem rows_append_newline {row : List Char} (h : '\n' ∉ row) (rest : List Char) :
    rows (row ++ '\n' :: rest) = row :: rows rest := by
  apply List.splitOnP_append_cons_of_forall_mem
  · intro c hc
    rw [beq_eq_false_iff_ne]
    rintro rfl
    exact h hc
  · rfl

/-- A text without newlines is one row. -/
theorem rows_eq_singleton {row : List Char} (h : '\n' ∉ row) : rows row = [row] := by
  apply List.splitOnP_eq_singleton
  intro c hc
  rw [beq_eq_false_iff_ne]
  rintro rfl
  exact h hc

/-- A newline divides the rows of a text. -/
theorem rows_append_cons (text rest : List Char) :
    rows (text ++ '\n' :: rest) = rows text ++ rows rest :=
  List.splitOnP_append_cons _ _ rfl

/-- Stacked rows are found again. -/
theorem rows_stacked_append {above : List (List Char)} (h : ∀ row ∈ above, '\n' ∉ row)
    (rest : List Char) : rows (stacked above ++ rest) = above ++ rows rest := by
  induction above with
  | nil => rfl
  | cons row above ih =>
    rw [stacked_cons, List.append_assoc, List.cons_append, rows_append_newline (h row (by simp)),
      ih fun r hr => h r (List.mem_cons_of_mem _ hr), List.cons_append]

theorem count_stacked {above : List (List Char)} (h : ∀ row ∈ above, '\n' ∉ row) :
    (stacked above).count '\n' = above.length := by
  induction above with
  | nil => rfl
  | cons row above ih =>
    have hrow : row.count '\n' = 0 := List.count_eq_zero.mpr (h row (by simp))
    rw [stacked_cons, List.count_append, List.count_cons_self, hrow,
      ih fun r hr => h r (List.mem_cons_of_mem _ hr), List.length_cons]
    omega

/-- The last character of stacked rows is a newline. -/
theorem head?_reverse_stacked (above : List (List Char)) :
    ∀ c ∈ (stacked above).reverse.head?, c = '\n' := by
  rw [List.head?_reverse]
  intro c hc
  induction above with
  | nil => cases hc
  | cons row above ih =>
    rw [stacked_cons, List.getLast?_append, List.getLast?_cons] at hc
    cases hlast : (stacked above).getLast? with
    | none =>
      rw [hlast] at hc
      cases hc
      rfl
    | some d =>
      rw [hlast] at hc ih
      exact ih hc

/-! ## A text seen from an offset -/

/-- A text as seen from an offset in it: the rows above, what stands to the left and to the right in
the same row, and what comes below, which starts with the newline that ends the row. -/
structure View (text : List Char) (offset : Nat) where
  above : List (List Char)
  left : List Char
  right : List Char
  below : List Char
  text_eq : text = stacked above ++ (left ++ (right ++ below))
  offset_eq : offset = (stacked above).length + left.length
  not_mem_above : ∀ row ∈ above, '\n' ∉ row
  not_mem_left : '\n' ∉ left
  not_mem_right : '\n' ∉ right
  head_below : ∀ c ∈ below.head?, c = '\n'

/-- Every text is stacked rows and a last row. -/
theorem exists_stacked (text : List Char) : ∃ above last, text = stacked above ++ last ∧
    (∀ row ∈ above, '\n' ∉ row) ∧ '\n' ∉ last := by
  induction text with
  | nil => exact ⟨[], [], rfl, by simp, by simp⟩
  | cons c text ih =>
    obtain ⟨above, last, rfl, habove, hlast⟩ := ih
    by_cases hc : c = '\n'
    · subst hc
      refine ⟨[] :: above, last, by rw [stacked_cons]; rfl, ?_, hlast⟩
      intro row hrow
      rcases List.mem_cons.mp hrow with rfl | hrow
      · simp
      · exact habove row hrow
    · -- the character goes to the first row, which may be the last
      cases above with
      | nil => exact ⟨[], c :: last, rfl, by simp, by simp [Ne.symm hc, hlast]⟩
      | cons row above =>
        refine ⟨(c :: row) :: above, last, by rw [stacked_cons, stacked_cons]; rfl, ?_, hlast⟩
        intro other hother
        rcases List.mem_cons.mp hother with rfl | hother
        · simp [Ne.symm hc, habove row List.mem_cons_self]
        · exact habove other (List.mem_cons_of_mem _ hother)

/-- A text can be seen from any offset in it. -/
theorem exists_view {text : List Char} {offset : Nat} (h : offset ≤ text.length) :
    Nonempty (View text offset) := by
  obtain ⟨above, left, hbefore, habove, hleft⟩ := exists_stacked (text.take offset)
  have hlength := congrArg List.length hbefore
  rw [List.length_take, List.length_append] at hlength
  -- what comes before the offset gives the rows above, what comes after it ends at a newline
  refine ⟨above, left, (text.drop offset).takeWhile (· ≠ '\n'),
    (text.drop offset).dropWhile (· ≠ '\n'), ?_, by omega, habove, hleft, ?_, ?_⟩
  · rw [List.takeWhile_append_dropWhile, ← List.append_assoc, ← hbefore, List.take_append_drop]
  · intro hmem
    have hne := List.mem_takeWhile_imp hmem
    simp at hne
  · intro c hc
    have hstop := List.head?_dropWhile_not (fun c => decide (c ≠ '\n')) (text.drop offset)
    rw [Option.mem_def.mp hc] at hstop
    simpa using hstop

end Text

open Text

/-- The place behind stacked rows and the start of another. -/
theorem Place.after_stacked (margin : Int) {above : List (List Char)} {left : List Char}
    (habove : ∀ row ∈ above, '\n' ∉ row) (hleft : '\n' ∉ left) :
    after margin (stacked above ++ left) =
      ⟨(stacked above ++ left).length, 1 + above.length, margin + left.length⟩ := by
  have hrow : left.count '\n' = 0 := List.count_eq_zero.mpr hleft
  have hcolumn : (stacked above ++ left).reverse.takeWhile (· ≠ '\n') = left.reverse := by
    rw [List.reverse_append, List.takeWhile_append_of_pos]
    · -- going back from the end, the newline of the row above comes next
      cases hhead : (stacked above).reverse with
      | nil => simp
      | cons c rest =>
        obtain rfl : c = '\n' := head?_reverse_stacked above c (by rw [hhead]; rfl)
        simp
    · intro c hc
      rw [decide_eq_true_eq]
      rintro rfl
      exact hleft (List.mem_reverse.mp hc)
  rw [after, hcolumn, List.count_append, count_stacked habove, hrow, List.length_reverse]
  rfl

namespace Text.View

variable {text : List Char} {offset : Nat}

theorem take_eq (v : View text offset) : text.take offset = stacked v.above ++ v.left := by
  obtain ⟨above, left, right, below, rfl, rfl, -, -, -, -⟩ := v
  dsimp only
  rw [← List.append_assoc, ← List.length_append, List.take_left]

theorem drop_eq (v : View text offset) : text.drop offset = v.right ++ v.below := by
  obtain ⟨above, left, right, below, rfl, rfl, -, -, -, -⟩ := v
  dsimp only
  rw [← List.append_assoc, ← List.length_append, List.drop_left]

/-- The place of the offset. -/
theorem place_eq (v : View text offset) (margin : Int) :
    Place.after margin (text.take offset) =
      ⟨offset, 1 + v.above.length, margin + v.left.length⟩ := by
  rw [v.take_eq, Place.after_stacked margin v.not_mem_above v.not_mem_left, List.length_append,
    ← v.offset_eq]

/-- The row that the offset is in. -/
def row (v : View text offset) : List Char :=
  v.left ++ v.right

theorem not_mem_row (v : View text offset) : '\n' ∉ v.row := by
  rw [row, List.mem_append]
  exact not_or.mpr ⟨v.not_mem_left, v.not_mem_right⟩

theorem text_eq_row (v : View text offset) : text = stacked v.above ++ (v.row ++ v.below) := by
  rw [row, List.append_assoc]
  exact v.text_eq

/-- The rows of the text are those above, this one, and those below. -/
theorem exists_rows_eq (v : View text offset) :
    ∃ others, rows text = v.above ++ v.row :: others := by
  have hrows : ∃ others, rows (v.row ++ v.below) = v.row :: others := by
    cases hbelow : v.below with
    | nil =>
      rw [List.append_nil]
      exact ⟨[], rows_eq_singleton v.not_mem_row⟩
    | cons c rest =>
      obtain rfl : c = '\n' := v.head_below c (by rw [hbelow]; rfl)
      exact ⟨rows rest, rows_append_newline v.not_mem_row rest⟩
  obtain ⟨others, hothers⟩ := hrows
  refine ⟨others, ?_⟩
  rw [← hothers, ← rows_stacked_append v.not_mem_above, ← v.text_eq_row]

theorem getElem?_rows (v : View text offset) : (rows text)[v.above.length]? = some v.row := by
  obtain ⟨others, hrows⟩ := v.exists_rows_eq
  rw [hrows, List.getElem?_append_right (Nat.le_refl _), Nat.sub_self, List.getElem?_cons_zero]

/-- What stands at the offset is in the row, unless the row ends there. -/
theorem getElem?_row (v : View text offset) {c : Char} (h : text[offset]? = some c)
    (hc : c ≠ '\n') : v.row[v.left.length]? = some c := by
  have hhead : (v.right ++ v.below).head? = some c := by
    rw [← v.drop_eq, List.head?_drop, h]
  cases hright : v.right with
  | nil =>
    rw [hright, List.nil_append] at hhead
    exact absurd (v.head_below c hhead) hc
  | cons d right =>
    rw [hright, List.cons_append, List.head?_cons, Option.some.injEq] at hhead
    rw [row, hright, List.getElem?_append_right (Nat.le_refl _), Nat.sub_self, hhead]
    rfl

theorem take_rows (v : View text offset) : (rows text).take v.above.length = v.above := by
  obtain ⟨others, hrows⟩ := v.exists_rows_eq
  rw [hrows, List.take_left]

end Text.View

/-! ## Lines -/

namespace Text

theorem ne_of_isLineBreak {c d : Char} (hc : isLineBreak c = false) (hd : isLineBreak d = true) :
    c ≠ d := by
  rintro rfl
  rw [hc] at hd
  cases hd

/-- A line break ends a line, unless it is a carriage return before a newline. -/
theorem lines_cons_of_isLineBreak {c : Char} {rest : List Char} (hc : isLineBreak c = true)
    (hreturn : c = '\r' → rest.head? ≠ some '\n') : lines (c :: rest) = [c] :: lines rest := by
  rw [lines, if_pos hc]
  intro others hr hrest
  apply hreturn hr
  rw [hrest]
  rfl

/-- Any other character belongs to the first line. -/
theorem lines_cons_of_not {c : Char} {rest : List Char} (hc : isLineBreak c = false) :
    lines (c :: rest) = (c :: (lines rest).headD []) :: (lines rest).tail := by
  rw [lines, if_neg (by rw [hc]; exact Bool.false_ne_true)]
  · cases lines rest <;> rfl
  · intro others hr _
    exact absurd hr (ne_of_isLineBreak hc (by decide))

theorem lines_ne_nil {text : List Char} (h : text ≠ []) : lines text ≠ [] := by
  unfold lines
  split
  · exact absurd rfl h
  · exact List.cons_ne_nil _ _
  · split
    · exact List.cons_ne_nil _ _
    · split <;> exact List.cons_ne_nil _ _

/-- A character that is no break is in the first line, whatever comes after that. -/
theorem lines_cons_append {c : Char} {text more rest : List Char} (hc : ¬ isLineBreak c = true)
    (hne : text ≠ []) (h : lines more = lines text ++ lines rest) :
    lines (c :: more) = lines (c :: text) ++ lines rest := by
  rw [Bool.not_eq_true] at hc
  rw [lines_cons_of_not hc, lines_cons_of_not hc, h]
  obtain ⟨line, others, hlines⟩ := List.exists_cons_of_ne_nil (lines_ne_nil hne)
  rw [hlines]
  rfl

/-- A newline ends a line, whatever stands before it. -/
theorem lines_append_newline (text rest : List Char) :
    lines (text ++ '\n' :: rest) = lines (text ++ ['\n']) ++ lines rest := by
  induction text using lines.induct with
  | case1 =>
    have hnewline : ∀ more, lines ('\n' :: more) = ['\n'] :: lines more := fun more =>
      lines_cons_of_isLineBreak rfl fun h => absurd h (by decide)
    rw [List.nil_append, List.nil_append, hnewline, hnewline]
    rfl
  | case2 text ih =>
    show ['\r', '\n'] :: lines (text ++ '\n' :: rest) = ['\r', '\n'] :: lines (text ++ ['\n']) ++ _
    rw [ih, List.cons_append]
  | case3 c text hreturn hc ih =>
    by_cases hlast : c = '\r' ∧ text = []
    · rw [hlast.1, hlast.2]
      rfl
    · have hhead : ∀ more, c = '\r' → (text ++ '\n' :: more).head? ≠ some '\n' := by
        intro more hr
        rw [List.head?_append_of_ne_nil _ fun hnil => hlast ⟨hr, hnil⟩]
        intro hhead
        obtain ⟨rest, hrest⟩ := List.head?_eq_some_iff.mp hhead
        exact hreturn rest hr hrest
      rw [List.cons_append, List.cons_append, lines_cons_of_isLineBreak hc (hhead rest),
        lines_cons_of_isLineBreak hc (hhead []), ih, List.cons_append]
  | case4 c text hreturn hc hnil ih => exact lines_cons_append hc (by simp) ih
  | case5 c text hreturn hc line others hlines ih => exact lines_cons_append hc (by simp) ih

/-- What of a row starts with its first line break. -/
def fromBreak (row : List Char) : List Char :=
  row.dropWhile (! isLineBreak ·)

theorem fromBreak_cons_of_not {c : Char} (hc : isLineBreak c = false) (row : List Char) :
    fromBreak (c :: row) = fromBreak row := by
  simp [fromBreak, hc]

theorem fromBreak_cons_of_isLineBreak {c : Char} (hc : isLineBreak c = true) (row : List Char) :
    fromBreak (c :: row) = c :: row := by
  simp [fromBreak, hc]

/-- Whether a row is displayed as one line: it has no line break, or only a carriage return at its
end, which makes one break with the newline. -/
def IsUnbroken (row : List Char) : Prop :=
  fromBreak row = [] ∨ fromBreak row = ['\r']

instance (row : List Char) : Decidable (IsUnbroken row) :=
  inferInstanceAs (Decidable (_ ∨ _))

/-- A row is at least one line, and it is more if it is broken. -/
theorem length_lines_row {row : List Char} (h : '\n' ∉ row) :
    1 ≤ (lines (row ++ ['\n'])).length ∧
      ((lines (row ++ ['\n'])).length = 1 ↔ IsUnbroken row) := by
  induction row with
  | nil => exact ⟨Nat.le_refl 1, fun _ => .inl rfl, fun _ => rfl⟩
  | cons c row ih =>
    obtain ⟨hpos, hone⟩ := ih fun hrow => h (List.mem_cons_of_mem _ hrow)
    rw [List.cons_append, IsUnbroken]
    by_cases hc : isLineBreak c = true
    · rw [fromBreak_cons_of_isLineBreak hc]
      by_cases hlast : c = '\r' ∧ row = []
      · rw [hlast.1, hlast.2]
        exact ⟨Nat.le_refl 1, fun _ => .inr rfl, fun _ => rfl⟩
      · have hhead : c = '\r' → (row ++ ['\n']).head? ≠ some '\n' := by
          intro hr
          rw [List.head?_append_of_ne_nil _ fun hnil => hlast ⟨hr, hnil⟩]
          intro hhead
          exact h (List.mem_cons_of_mem _ (List.mem_of_mem_head? hhead))
        rw [lines_cons_of_isLineBreak hc hhead, List.length_cons]
        refine ⟨by omega, fun hlength => by omega, ?_⟩
        rintro (hnil | hreturn)
        · cases hnil
        · exact absurd (List.cons.inj hreturn) hlast
    · rw [Bool.not_eq_true] at hc
      have hlength : (lines (c :: (row ++ ['\n']))).length = (lines (row ++ ['\n'])).length := by
        rw [lines_cons_of_not hc, List.length_cons, List.length_tail]
        omega
      rw [hlength, fromBreak_cons_of_not hc]
      exact ⟨hpos, hone⟩

/-- The lines of stacked rows are at least as many as the rows, and as many if none is broken. -/
theorem length_lines_rows {above : List (List Char)} (h : ∀ row ∈ above, '\n' ∉ row) :
    above.length ≤ (above.flatMap fun row => lines (row ++ ['\n'])).length ∧
      ((above.flatMap fun row => lines (row ++ ['\n'])).length = above.length ↔
        ∀ row ∈ above, IsUnbroken row) := by
  induction above with
  | nil => simp
  | cons row above ih =>
    obtain ⟨hle, heq⟩ := ih fun other hother => h other (List.mem_cons_of_mem _ hother)
    obtain ⟨hpos, hone⟩ := length_lines_row (h row List.mem_cons_self)
    rw [List.flatMap_cons, List.length_append, List.length_cons, List.forall_mem_cons, ← hone,
      ← heq]
    omega

/-- Stacked rows are displayed one after the other. -/
theorem lines_stacked_append (above : List (List Char)) (rest : List Char) :
    lines (stacked above ++ rest) =
      (above.flatMap fun row => lines (row ++ ['\n'])) ++ lines rest := by
  induction above with
  | nil => rfl
  | cons row above ih =>
    rw [stacked_cons, List.append_assoc, List.cons_append, lines_append_newline, ih,
      List.flatMap_cons, List.append_assoc]

/-! ## The line that has the number of a row -/

namespace View

variable {text : List Char} {offset : Nat}

/-- The lines of a text are those of its rows. -/
theorem lines_eq (v : View text offset) :
    lines text =
      (v.above.flatMap fun row => lines (row ++ ['\n'])) ++ lines (v.row ++ v.below) := by
  rw [← lines_stacked_append, ← v.text_eq_row]

/-- If no row above is broken, the line with the number of a row is the first line of that row. -/
theorem getElem?_lines (v : View text offset) (h : ∀ row ∈ v.above, IsUnbroken row) :
    (lines text)[v.above.length]? = (lines (v.row ++ v.below)).head? := by
  have hlength := (length_lines_rows v.not_mem_above).2.mpr h
  rw [v.lines_eq, List.getElem?_append_right (by omega), hlength, Nat.sub_self,
    List.head?_eq_getElem?]

/-- Otherwise this line is one of a row above. -/
theorem exists_line_above (v : View text offset) (h : ¬ ∀ row ∈ v.above, IsUnbroken row) :
    ∃ row ∈ v.above, ∃ line ∈ lines (row ++ ['\n']), (lines text)[v.above.length]? = some line := by
  obtain ⟨hle, heq⟩ := length_lines_rows v.not_mem_above
  -- the rows above have more lines than there are rows, so counting does not get past them
  have hlt : v.above.length < (v.above.flatMap fun row => lines (row ++ ['\n'])).length := by
    rw [← heq] at h
    omega
  obtain ⟨line, hline⟩ : ∃ line,
      (v.above.flatMap fun row => lines (row ++ ['\n']))[v.above.length]? = some line :=
    ⟨_, List.getElem?_eq_getElem hlt⟩
  obtain ⟨row, hrow, hmem⟩ := List.mem_flatMap.mp (List.mem_of_getElem? hline)
  refine ⟨row, hrow, line, hmem, ?_⟩
  rw [v.lines_eq, List.getElem?_append_left hlt, hline]

end View

/-! ## What of a line is shown -/

theorem dropEnd_cons_of_ne {c d : Char} (h : c ≠ d) (text : List Char) :
    dropEnd d (c :: text) = c :: dropEnd d text := by
  rw [dropEnd, dropEnd, List.reverse_cons, List.dropWhile_append]
  by_cases hnil : (text.reverse.dropWhile (· == d)).isEmpty = true
  · rw [if_pos hnil, List.dropWhile_cons_of_neg (by simpa using h), List.isEmpty_iff.mp hnil]
    rfl
  · rw [if_neg hnil, List.reverse_append]
    rfl

theorem dropEnd_eq_nil_iff {d : Char} {text : List Char} :
    dropEnd d text = [] ↔ ∀ c ∈ text, c = d := by
  have hnil : dropEnd d text = [] ↔ ∀ c ∈ text, (c == d) = true := List.rdropWhile_eq_nil_iff
  simpa only [beq_iff_eq] using hnil

/-- What ends a text is dropped, and nothing else. -/
theorem exists_dropEnd_append (d : Char) (text : List Char) :
    ∃ n, text = dropEnd d text ++ List.replicate n d := by
  refine ⟨(text.reverse.takeWhile (· == d)).length, ?_⟩
  have hrun : (text.reverse.takeWhile (· == d)).reverse =
      List.replicate (text.reverse.takeWhile (· == d)).length d := by
    rw [List.eq_replicate_iff]
    refine ⟨List.length_reverse, fun c hc => ?_⟩
    have hc := List.mem_takeWhile_imp (List.mem_reverse.mp hc)
    simpa using hc
  rw [← hrun, dropEnd, ← List.reverse_append, List.takeWhile_append_dropWhile, List.reverse_reverse]

theorem dropEnd_eq_self {d : Char} {text : List Char} (h : d ∉ text) : dropEnd d text = text := by
  obtain ⟨n, htext⟩ := exists_dropEnd_append d text
  cases n with
  | zero => rw [List.replicate_zero, List.append_nil] at htext; exact htext.symm
  | succ n =>
    exfalso
    apply h
    rw [htext, List.replicate_succ]
    exact List.mem_append_right _ List.mem_cons_self

theorem mem_of_mem_dropEnd {c d : Char} {text : List Char} (h : c ∈ dropEnd d text) : c ∈ text := by
  obtain ⟨n, htext⟩ := exists_dropEnd_append d text
  rw [htext]
  exact List.mem_append_left _ h

theorem shownLine_cons {c : Char} (hc : isLineBreak c = false) (line : List Char) :
    shownLine (c :: line) = c :: shownLine line := by
  rw [shownLine, dropEnd_cons_of_ne (ne_of_isLineBreak hc (by decide)),
    dropEnd_cons_of_ne (ne_of_isLineBreak hc (by decide)), shownLine]

/-- A line break alone is shown, unless it is one of the two that are dropped. -/
theorem shownLine_singleton (c : Char) :
    shownLine [c] = [c].filter fun d => d ≠ '\n' ∧ d ≠ '\r' := by
  by_cases hn : c = '\n'
  · rw [hn]
    decide
  · by_cases hr : c = '\r'
    · rw [hr]
      decide
    · simp [shownLine, dropEnd, hn, hr]

/-- What of a row is in its first line: the characters up to the first line break, and this break
too unless it is a carriage return. -/
def shownPart (row : List Char) : List Char :=
  row.takeWhile (! isLineBreak ·) ++ ((fromBreak row).take 1).filter (· ≠ '\r')

theorem shownPart_cons_of_not {c : Char} (hc : isLineBreak c = false) (row : List Char) :
    shownPart (c :: row) = c :: shownPart row := by
  simp [shownPart, fromBreak, hc]

theorem shownPart_cons_of_isLineBreak {c : Char} (hc : isLineBreak c = true) (row : List Char) :
    shownPart (c :: row) = [c].filter (· ≠ '\r') := by
  simp [shownPart, fromBreak, hc]

/-- The first line of a row shows this part of it. -/
theorem shownLine_first {row below : List Char} (hrow : '\n' ∉ row)
    (hbelow : ∀ c ∈ below.head?, c = '\n') :
    shownLine ((lines (row ++ below)).headD []) = shownPart row := by
  induction row with
  | nil =>
    cases below with
    | nil => rfl
    | cons c below =>
      obtain rfl : c = '\n' := hbelow c rfl
      rw [List.nil_append, lines_cons_of_isLineBreak rfl fun h => absurd h (by decide)]
      rfl
  | cons c row ih =>
    rw [List.cons_append]
    by_cases hc : isLineBreak c = true
    · rw [shownPart_cons_of_isLineBreak hc]
      by_cases hpair : c = '\r' ∧ (row ++ below).head? = some '\n'
      · obtain ⟨rest, hrest⟩ := List.head?_eq_some_iff.mp hpair.2
        rw [hpair.1, hrest]
        rfl
      · have hne : c ≠ '\n' := by
          rintro rfl
          exact hrow List.mem_cons_self
        rw [lines_cons_of_isLineBreak hc fun hr hhead => hpair ⟨hr, hhead⟩, List.headD_cons,
          shownLine_singleton]
        simp [List.filter_cons, hne]
    · rw [Bool.not_eq_true] at hc
      rw [lines_cons_of_not hc, List.headD_cons, shownLine_cons hc, shownPart_cons_of_not hc,
        ih fun h => hrow (List.mem_cons_of_mem _ h)]

/-- A newline is the last character of its line. -/
theorem not_mem_dropLast {text line : List Char} (h : line ∈ lines text) :
    '\n' ∉ line.dropLast := by
  induction text using lines.induct generalizing line with
  | case1 => cases h
  | case2 text ih =>
    rcases List.mem_cons.mp h with rfl | h
    · decide
    · exact ih h
  | case3 c text hreturn hc ih =>
    rw [lines, if_pos hc] at h
    · rcases List.mem_cons.mp h with rfl | h
      · simp
      · exact ih h
    · exact hreturn
  | case4 c text hreturn hc hnil ih =>
    rw [Bool.not_eq_true] at hc
    rw [lines_cons_of_not hc, hnil] at h
    obtain rfl := List.mem_singleton.mp h
    simp
  | case5 c text hreturn hc first others hlines ih =>
    rw [Bool.not_eq_true] at hc
    rw [lines_cons_of_not hc, hlines] at h
    rcases List.mem_cons.mp h with rfl | h
    · have hne : '\n' ≠ c := (ne_of_isLineBreak hc (by decide)).symm
      have hfirst := ih (hlines ▸ List.mem_cons_self)
      cases first with
      | nil => simp
      | cons d first => simpa [hne] using hfirst
    · exact ih (hlines ▸ List.mem_cons_of_mem _ h)

/-- No newline is shown. -/
theorem not_mem_shownLine {text line : List Char} (h : line ∈ lines text) :
    '\n' ∉ shownLine line := by
  have hline : '\n' ∉ dropEnd '\n' line := by
    have hinit := not_mem_dropLast h
    rcases List.eq_nil_or_concat line with rfl | ⟨init, last, rfl⟩
    · simp [dropEnd]
    · rw [List.concat_eq_append, List.dropLast_concat] at hinit
      intro hmem
      by_cases hlast : last = '\n'
      · have hdrop : dropEnd '\n' (init ++ [last]) = dropEnd '\n' init :=
          List.rdropWhile_concat_pos _ _ _ (by simpa using hlast)
        rw [List.concat_eq_append, hdrop] at hmem
        exact hinit (mem_of_mem_dropEnd hmem)
      · have hmem := mem_of_mem_dropEnd hmem
        rw [List.concat_eq_append, List.mem_append, List.mem_singleton] at hmem
        exact hmem.elim hinit fun heq => hlast heq.symm
  exact fun hmem => hline (mem_of_mem_dropEnd hmem)

/-- No carriage return is shown of a row. -/
theorem not_mem_shownPart (row : List Char) : '\r' ∉ shownPart row := by
  rw [shownPart, List.mem_append, not_or]
  constructor
  · intro hmem
    exact absurd (List.mem_takeWhile_imp hmem) (by decide)
  · intro hmem
    exact absurd (List.mem_filter.mp hmem).2 (by decide)

/-- Whether only carriage returns come after the first line break of a row. -/
def IsWhole (row : List Char) : Prop :=
  ∀ c ∈ (fromBreak row).tail, c = '\r'

instance (row : List Char) : Decidable (IsWhole row) :=
  decidable_of_iff ((fromBreak row).tail.all (· == '\r') = true) (by simp [IsWhole])

/-- The rows that are shown up to the carriage returns at their end. -/
theorem shownPart_eq_iff {row : List Char} : shownPart row = dropEnd '\r' row ↔ IsWhole row := by
  induction row with
  | nil => simp [shownPart, dropEnd, IsWhole, fromBreak]
  | cons c row ih =>
    by_cases hc : isLineBreak c = true
    · have hwhole : IsWhole (c :: row) ↔ dropEnd '\r' row = [] := by
        rw [dropEnd_eq_nil_iff, IsWhole, fromBreak_cons_of_isLineBreak hc, List.tail_cons]
      rw [shownPart_cons_of_isLineBreak hc, hwhole]
      by_cases hr : c = '\r'
      · have hnone : ['\r'].filter (· ≠ '\r') = [] := by decide
        rw [hr, hnone, eq_comm, dropEnd_eq_nil_iff, dropEnd_eq_nil_iff, List.forall_mem_cons,
          and_iff_right rfl]
      · rw [dropEnd_cons_of_ne hr, List.filter_cons_of_pos (by simpa using hr), List.filter_nil,
          List.cons.injEq, and_iff_right rfl, eq_comm]
    · rw [Bool.not_eq_true] at hc
      have hwhole : IsWhole (c :: row) ↔ IsWhole row := by
        rw [IsWhole, fromBreak_cons_of_not hc, IsWhole]
      rw [shownPart_cons_of_not hc, dropEnd_cons_of_ne (ne_of_isLineBreak hc (by decide)), hwhole,
        ← ih, List.cons.injEq, and_iff_right rfl]

/-- A character of a row is shown where it is unless a line break comes before it. -/
theorem getElem?_shownPart {row : List Char} {i : Nat} {c : Char} (h : row[i]? = some c)
    (hc : c ≠ '\r') :
    (shownPart row)[i]? = some c ↔ ∀ b ∈ row.take i, isLineBreak b = false := by
  induction row generalizing i with
  | nil => cases h
  | cons d row ih =>
    by_cases hd : isLineBreak d = true
    · rw [shownPart_cons_of_isLineBreak hd]
      cases i with
      | zero =>
        obtain rfl : d = c := Option.some.inj h
        simp [hc]
      | succ i =>
        -- the line ends with the break
        have hnone : ([d].filter (· ≠ '\r'))[i + 1]? = none := by
          have hlength := List.length_filter_le (· ≠ '\r') [d]
          rw [List.getElem?_eq_none_iff]
          rw [List.length_singleton] at hlength
          omega
        rw [hnone, List.take_succ_cons, List.forall_mem_cons, hd]
        simp
    · rw [Bool.not_eq_true] at hd
      rw [shownPart_cons_of_not hd]
      cases i with
      | zero => simpa using h
      | succ i =>
        rw [List.getElem?_cons_succ] at h ⊢
        rw [ih h, List.take_succ_cons, List.forall_mem_cons, and_iff_right hd]

/-- In a row that is shown as a whole, only carriage returns have a line break before them. -/
theorem IsWhole.forall_take {row : List Char} (hwhole : IsWhole row) {i : Nat} {c : Char}
    (h : row[i]? = some c) (hc : c ≠ '\r') : ∀ b ∈ row.take i, isLineBreak b = false := by
  induction row generalizing i with
  | nil => cases h
  | cons d row ih =>
    cases i with
    | zero => simp
    | succ i =>
      rw [List.getElem?_cons_succ] at h
      rw [List.take_succ_cons, List.forall_mem_cons]
      by_cases hd : isLineBreak d = true
      · rw [IsWhole, fromBreak_cons_of_isLineBreak hd, List.tail_cons] at hwhole
        exact absurd (hwhole c (List.mem_of_getElem? h)) hc
      · rw [Bool.not_eq_true] at hd
        rw [IsWhole, fromBreak_cons_of_not hd] at hwhole
        exact ⟨hd, ih hwhole h⟩

end Text

end ScriptFront
