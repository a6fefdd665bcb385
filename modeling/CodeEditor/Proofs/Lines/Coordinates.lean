import CodeEditor.Proofs.Lines.Joined

/-! # Line and column

The lines lie over the text one behind the other, each with nothing but its feed or return behind what
it shows. So line and column lead back to the position they are of; only the position between a return
and its feed has those of the return.
-/

namespace CodeEditor

namespace Text

variable {text : List Char} {before after : List (List Char)}

/-! ## Where lines end -/

theorem not_returnMeetsFeed_of_lines (h : lines text = before ++ after) :
    ¬ ReturnMeetsFeed before.flatten after.flatten := by
  rintro ⟨hreturn, hfeed⟩
  cases after with
  | nil => simp at hfeed
  | cons next after =>
    rcases List.eq_nil_or_concat before with rfl | ⟨front, l, rfl⟩
    · simp at hreturn
    · rw [List.concat_eq_append, List.append_assoc, List.singleton_append] at h
      obtain ⟨init, c, rfl, hbreak⟩ := exists_break_of_lines h
      have hc : c = '\r' := by simpa using hreturn
      rw [hfeed, hc] at hbreak
      cases hbreak

theorem eq_nil_of_pair {front back : List Char}
    (h : lines text = before ++ (front ++ '\r' :: '\n' :: back) :: after) : back = [] := by
  cases back with
  | nil => rfl
  | cons d back =>
    have hline : front ++ '\r' :: '\n' :: d :: back = (front ++ ['\r']) ++ '\n' :: d :: back := by simp
    rw [hline] at h
    cases not_breaksAfter_of_lines h

/-! ## What stands behind a line -/

/-- What can stand between what a line shows and the line after it. -/
def feeds : List (List Char) := [[], ['\n'], ['\r'], ['\r', '\n']]

theorem exists_feed (line : List Char) :
    ∃ feed ∈ feeds, line = withoutFeed line ++ feed ∧ feed.length = feedLength line := by
  have hpieces : ∃ body, ∃ feed ∈ feeds, line = body ++ feed ∧ feed.length = feedLength line := by
    obtain ⟨backwards, rfl⟩ : ∃ backwards : List Char, backwards.reverse = line := ⟨_, line.reverse_reverse⟩
    rw [feedLength, List.reverse_reverse]
    split
    · next rest => exact ⟨rest.reverse, ['\r', '\n'], by decide, by simp, rfl⟩
    · next rest _ => exact ⟨rest.reverse, ['\n'], by decide, by simp, rfl⟩
    · next rest => exact ⟨rest.reverse, ['\r'], by decide, by simp, rfl⟩
    · exact ⟨_, [], by decide, (List.append_nil _).symm, rfl⟩
  obtain ⟨body, feed, hfeed, hline, hlength⟩ := hpieces
  have hbody : withoutFeed line = body := by
    rw [withoutFeed, ← hlength, hline, List.length_append, Nat.add_sub_cancel, List.take_left]
  exact ⟨feed, hfeed, by rw [hbody, ← hline], hlength⟩

theorem feedLength_of_last {line : List Char} (plain : ∀ c ∈ line, isLineEnd c = false) :
    feedLength line = 0 := by
  have hfeed : feedLength (line ++ []) ≤ 0 := feedLength_append_le plain
  rwa [List.append_nil, Nat.le_zero] at hfeed

end Text

namespace Buffer

open Text

variable {b : Buffer} {l : List Char} {before after : List (List Char)}

/-! ## Positions -/

/-- The position lies between a return and its feed. -/
def InsidePair (b : Buffer) (position : Nat) : Prop :=
  ReturnMeetsFeed (b.text.take position) (b.text.drop position)

instance (b : Buffer) (position : Nat) : Decidable (b.InsidePair position) :=
  inferInstanceAs (Decidable (_ ∧ _))

/-- The position is that of the first character, or what stands before it ends a line there. -/
def StartsLine (b : Buffer) (position : Nat) : Prop :=
  position = 0 ∨ ∃ c, (b.text.take position).getLast? = some c ∧
    breaksAfter c (b.text.drop position).head? = true

theorem text_eq_of_lines (h : b.lines = before ++ after) :
    b.text = before.flatten ++ after.flatten := by
  rw [← flatten_lines b.text, ← List.flatten_append]
  exact congrArg List.flatten h

theorem positionOf_zero (h : b.lines = before ++ after) :
    b.positionOf before.length 0 = before.flatten.length := by
  cases after with
  | nil =>
    have hpast : b.lineCount ≤ before.length := by simp [lineCount, h]
    rw [positionOf, if_pos hpast, length, text_eq_of_lines h]
    simp
  | cons l after =>
    have hthere : ¬ b.lineCount ≤ before.length := by simp [lineCount, h]
    rw [positionOf, if_neg hthere, lineStart_eq h, Nat.zero_min, Nat.add_zero]

theorem first_line_starts (b : Buffer) : b.positionOf 0 0 = 0 := by
  have hlines : b.lines = [] ++ b.lines := rfl
  exact positionOf_zero hlines

theorem slice_of_pieces {front inside back : List Char} (h : b.text = front ++ inside ++ back) :
    b.slice ⟨front.length, front.length + inside.length⟩ = inside := by
  rw [slice, h, ← List.length_append, List.take_left, List.drop_left]

/-- A line that is there, with what stands before it, its feed and what stands behind it. -/
theorem exists_line_pieces {line : Nat} (h : line < b.lineCount) :
    ∃ before after feed, before.length = line ∧
      b.lines = before ++ (b.lineText line ++ feed) :: after ∧ feed ∈ feeds ∧
      (after = [] → feed = []) := by
  obtain ⟨before, l, after, hlines, rfl⟩ := exists_lines_of_lt h
  obtain ⟨feed, hfeed, hline, hlength⟩ := exists_feed l
  rw [← lineText_eq hlines] at hline
  refine ⟨before, after, feed, rfl, by rw [hlines, ← hline], hfeed, ?_⟩
  rintro rfl
  rw [feedLength_of_last (not_isLineEnd_of_lines hlines)] at hlength
  exact List.eq_nil_of_length_eq_zero hlength

theorem line_places {line : Nat} (h : line < b.lineCount) :
    ∃ feed ∈ feeds, b.positionOf line 0 + b.lineLength line + feed.length = b.positionOf (line + 1) 0 ∧
      b.slice ⟨b.positionOf line 0, b.positionOf line 0 + b.lineLength line⟩ = b.lineText line ∧
      b.slice ⟨b.positionOf line 0 + b.lineLength line, b.positionOf (line + 1) 0⟩ = feed ∧
      (line + 1 = b.lineCount → feed = []) := by
  obtain ⟨before, after, feed, rfl, hlines, hfeed, hlast⟩ := exists_line_pieces h
  have hnext : b.lines = (before ++ [b.lineText before.length ++ feed]) ++ after := by
    rw [hlines, List.append_assoc, List.singleton_append]
  have hstart := positionOf_zero hlines
  have hstop := positionOf_zero hnext
  rw [List.length_append, List.length_singleton, List.flatten_append, List.flatten_singleton,
    List.length_append, List.length_append, ← Nat.add_assoc] at hstop
  have htext : b.text = before.flatten ++ b.lineText before.length ++ (feed ++ after.flatten) := by
    simp [text_eq_of_lines hlines]
  have htext' : b.text = (before.flatten ++ b.lineText before.length) ++ feed ++ after.flatten := by
    simp [htext]
  refine ⟨feed, hfeed, ?_, ?_, ?_, ?_⟩
  · rw [hstart, hstop, lineLength]
  · rw [hstart, lineLength]
    exact slice_of_pieces htext
  · rw [hstart, hstop, lineLength, ← List.length_append]
    exact slice_of_pieces htext'
  · intro hcount
    apply hlast
    rw [lineCount, hlines, List.length_append, List.length_cons] at hcount
    exact List.eq_nil_of_length_eq_zero (by omega)

theorem positionOf_lt_succ {line : Nat} (h : line + 1 < b.lineCount) :
    b.positionOf line 0 < b.positionOf (line + 1) 0 := by
  obtain ⟨before, l, after, hlines, rfl⟩ := exists_lines_of_lt (Nat.lt_of_succ_lt h)
  cases after with
  | nil => simp [lineCount, hlines] at h
  | cons next after =>
    obtain ⟨init, c, rfl, -⟩ := exists_break_of_lines hlines
    have hnext : b.lines = (before ++ [init ++ [c]]) ++ next :: after := by simp [hlines]
    have hstop := positionOf_zero hnext
    rw [List.length_append, List.length_singleton] at hstop
    rw [positionOf_zero hlines, hstop]
    simp

theorem positionOf_lt {line line' : Nat} (h : line < line') (inside : line' < b.lineCount) :
    b.positionOf line 0 < b.positionOf line' 0 := by
  induction h with
  | refl => exact positionOf_lt_succ inside
  | step _ ih => exact Nat.lt_trans (ih (Nat.lt_of_succ_lt inside)) (positionOf_lt_succ inside)

/-! ## There and back -/

theorem exists_place {position : Nat} (inside : position ≤ b.length) :
    ∃ before front back after, b.lines = before ++ (front ++ back) :: after ∧
      position = before.flatten.length + front.length ∧ (after ≠ [] → back ≠ []) := by
  obtain ⟨before, l, after, column, hlines, rfl, hcolumn⟩ :=
    exists_line (lines_ne_nil b.text) position
  have hlength := length_eq_of_lines (b := b) hlines
  have hwithin : column ≤ l.length := by
    cases after with
    | nil => simpa [hlength] using inside
    | cons next after => exact Nat.le_of_lt (hcolumn (List.cons_ne_nil _ _))
  refine ⟨before, l.take column, l.drop column, after, ?_, ?_, ?_⟩
  · rw [List.take_append_drop]
    exact hlines
  · rw [List.length_take_of_le hwithin]
  · intro more hnone
    exact absurd (List.drop_eq_nil_iff.mp hnone) (Nat.not_le.mpr (hcolumn more))

theorem take_drop_place {front back : List Char} {position : Nat}
    (h : b.lines = before ++ (front ++ back) :: after)
    (place : position = before.flatten.length + front.length) :
    b.text.take position = before.flatten ++ front ∧
      b.text.drop position = back ++ after.flatten := by
  have htext : b.text = (before.flatten ++ front) ++ (back ++ after.flatten) := by
    simp [text_eq_of_lines h]
  rw [place, ← List.length_append, htext, List.take_left, List.drop_left]
  exact ⟨rfl, rfl⟩

theorem insidePair_iff {front back : List Char} {position : Nat}
    (h : b.lines = before ++ (front ++ back) :: after)
    (place : position = before.flatten.length + front.length) (more : after ≠ [] → back ≠ []) :
    b.InsidePair position ↔ ∃ shown, front = shown ++ ['\r'] ∧ back = ['\n'] := by
  obtain ⟨htake, hdrop⟩ := take_drop_place h place
  unfold InsidePair ReturnMeetsFeed
  rw [htake, hdrop]
  constructor
  · rintro ⟨hreturn, hfeed⟩
    rcases List.eq_nil_or_concat front with rfl | ⟨shown, c, rfl⟩
    · rw [List.append_nil] at hreturn
      have hstarts : Text.lines b.text = before ++ back :: after := h
      exact absurd ⟨hreturn, hfeed⟩ (not_returnMeetsFeed_of_lines hstarts)
    · rw [List.concat_eq_append] at h hreturn ⊢
      have hc : c = '\r' := by simpa using hreturn
      cases back with
      | nil =>
        cases after with
        | nil => simp at hfeed
        | cons next after => exact absurd rfl (more (List.cons_ne_nil _ _))
      | cons d back =>
        have hd : d = '\n' := by simpa using hfeed
        rw [hc, hd, List.append_assoc, List.singleton_append] at h
        exact ⟨shown, by rw [hc], by rw [hd, eq_nil_of_pair h]⟩
  · rintro ⟨shown, rfl, rfl⟩
    simp

theorem column_of_place {front back : List Char} {position : Nat}
    (h : b.lines = before ++ (front ++ back) :: after)
    (place : position = before.flatten.length + front.length) (more : after ≠ [] → back ≠ []) :
    if b.InsidePair position then front.length = b.lineLength before.length + 1
    else front.length ≤ b.lineLength before.length := by
  have hpair := insidePair_iff h place more
  split
  · next pair =>
    obtain ⟨shown, rfl, rfl⟩ := hpair.mp pair
    rw [lineLength_eq h, List.append_assoc, List.singleton_append, feedLength_concat]
    simp
  · next apart =>
    obtain ⟨feed, hfeed, hline, hlength⟩ := exists_feed (front ++ back)
    rw [← lineText_eq h] at hline
    rw [lineLength]
    rcases List.append_eq_append_iff.mp hline with ⟨rest, hshown, -⟩ | ⟨rest, hfront, rfl⟩
    · simp [hshown]
    · -- What is behind the shown text would be a feed that the position divides.
      cases rest with
      | nil => simp [hfront]
      | cons r rest =>
        refine absurd (hpair.mpr ?_) apart
        have hback : back ≠ [] := by
          cases after with
          | nil =>
            rw [feedLength_of_last (not_isLineEnd_of_lines h)] at hlength
            simp at hlength
          | cons next after => exact more (List.cons_ne_nil _ _)
        simp only [feeds, List.cons_append, List.mem_cons, reduceCtorEq, List.cons.injEq, false_or,
          List.append_eq_nil_iff, hback, and_false, List.not_mem_nil, or_false] at hfeed
        obtain ⟨rfl, hrest⟩ := hfeed
        cases rest with
        | nil => exact ⟨_, hfront, hrest⟩
        | cons r rest => simp [hback] at hrest

theorem positionOf_lineColumn {position : Nat} (inside : position ≤ b.length) :
    b.positionOf (b.lineColumn position).1 (b.lineColumn position).2 =
      if b.InsidePair position then position - 1 else position := by
  obtain ⟨before, front, back, after, hlines, hplace, more⟩ := exists_place inside
  have hcolumn := column_of_place hlines hplace more
  have hthere : ¬ b.lineCount ≤ before.length := by simp [lineCount, hlines]
  have hwithin : after ≠ [] → front.length < (front ++ back).length := by
    intro hafter
    have := List.length_pos_iff.mpr (more hafter)
    simp only [List.length_append]
    omega
  have hfound := lineColumn_eq hlines hwithin (by omega)
  rw [← hplace] at hfound
  have hback : b.positionOf (b.lineColumn position).1 (b.lineColumn position).2 =
      before.flatten.length + min front.length (b.lineLength before.length) := by
    simp only [hfound, positionOf, hthere, if_false, lineStart_eq hlines, Nat.min_assoc, Nat.min_self]
  rw [hback]
  split at hcolumn
  · next hpair =>
    rw [if_pos hpair]
    omega
  · next hapart =>
    rw [if_neg hapart]
    omega

theorem exists_positionOf_iff {position : Nat} (inside : position ≤ b.length) :
    (∃ line < b.lineCount, b.positionOf line 0 = position) ↔ b.StartsLine position := by
  constructor
  · rintro ⟨line, hline, rfl⟩
    obtain ⟨before, l, after, hlines, rfl⟩ := exists_lines_of_lt hline
    have hsplit : b.lines = before ++ ([] ++ l) :: after := hlines
    obtain ⟨htake, hdrop⟩ := take_drop_place hsplit (positionOf_zero hlines)
    rcases List.eq_nil_or_concat before with rfl | ⟨front, prior, rfl⟩
    · exact .inl (positionOf_zero hlines)
    · rw [List.concat_eq_append] at hlines htake hdrop ⊢
      rw [List.append_assoc, List.singleton_append] at hlines
      obtain ⟨init, c, rfl, hbreak⟩ := exists_break_of_lines hlines
      refine .inr ⟨c, ?_, ?_⟩
      · rw [htake]
        simp
      · rwa [hdrop]
  · rintro (rfl | ⟨c, hlast, hbreak⟩)
    · refine ⟨0, List.length_pos_iff.mpr (lines_ne_nil b.text), ?_⟩
      exact first_line_starts b
    · obtain ⟨before, front, back, after, hlines, hplace, more⟩ := exists_place inside
      obtain ⟨htake, hdrop⟩ := take_drop_place hlines hplace
      rw [htake] at hlast
      rw [hdrop] at hbreak
      rcases List.eq_nil_or_concat front with rfl | ⟨start, d, rfl⟩
      · refine ⟨before.length, ?_, ?_⟩
        · simp [lineCount, hlines]
        · rw [positionOf_zero hlines, hplace]
          rfl
      · -- A line does not end in its midst, and the last one does not end.
        rw [List.concat_eq_append] at hlines hlast
        have hd : d = c := by simpa using hlast
        subst hd
        cases back with
        | nil =>
          cases after with
          | nil =>
            have hplain := not_isLineEnd_of_lines hlines d (by simp)
            simp [breaksAfter, hplain] at hbreak
          | cons next after => exact absurd rfl (more (List.cons_ne_nil _ _))
        | cons e back =>
          rw [List.append_assoc, List.singleton_append] at hlines
          rw [List.cons_append, List.head?_cons, not_breaksAfter_of_lines hlines] at hbreak
          cases hbreak

/-- How line and column stand for positions, and how the lines lie over the text. -/
structure Coordinates (b : Buffer) : Prop where
  /-- Line and column lead back; those of a position inside a pair lead to its return. -/
  back : ∀ position ≤ b.length, b.positionOf (b.lineColumn position).1 (b.lineColumn position).2 =
    if b.InsidePair position then position - 1 else position
  first : b.positionOf 0 0 = 0
  ascending : ∀ line line', line < line' → line' < b.lineCount →
    b.positionOf line 0 < b.positionOf line' 0
  past : ∀ line, b.lineCount ≤ line → b.positionOf line 0 = b.length
  /-- Lines start at the first character and behind everything that ends lines. -/
  starts : ∀ position ≤ b.length,
    (∃ line < b.lineCount, b.positionOf line 0 = position) ↔ b.StartsLine position
  /-- A line shows the characters from its start on, so many as it is long. -/
  shown : ∀ line < b.lineCount,
    b.lineText line = b.slice ⟨b.positionOf line 0, b.positionOf line 0 + b.lineLength line⟩ ∧
      b.positionOf line 0 + b.lineLength line ≤ b.length
  /-- What is left up to the next line is a feed, a return, both or nothing. -/
  feed : ∀ line < b.lineCount,
    b.slice ⟨b.positionOf line 0 + b.lineLength line, b.positionOf (line + 1) 0⟩ ∈ feeds
  last : ∀ line, line + 1 = b.lineCount → b.positionOf line 0 + b.lineLength line = b.length

/-- Line and column tell the positions of any text apart, but for those inside pairs. -/
theorem line_and_column_identify (b : Buffer) : b.Coordinates where
  back position inside := positionOf_lineColumn inside
  first := first_line_starts b
  ascending line line' h inside := positionOf_lt h inside
  past line past := if_pos past
  starts position inside := exists_positionOf_iff inside
  shown line h := by
    obtain ⟨feed, -, hnext, hshown, -, -⟩ := line_places h
    have hwithin := b.positionOf_le (line + 1) 0
    exact ⟨hshown.symm, by omega⟩
  feed line h := by
    obtain ⟨feed, hfeed, -, -, hslice, -⟩ := line_places h
    rwa [hslice]
  last line h := by
    obtain ⟨feed, -, hnext, -, -, hlast⟩ := line_places (by omega : line < b.lineCount)
    rw [hlast h, List.length_nil, Nat.add_zero] at hnext
    rw [hnext, positionOf, if_pos (Nat.le_of_eq h.symm)]

-- The second of two pairs makes up a line by itself.
example :
    let b : Buffer := ⟨['a', '\r', '\n', '\r', '\n']⟩
    (List.range 6).map b.lineColumn = [(0, 0), (0, 1), (0, 1), (1, 0), (1, 0), (2, 0)] := by
  decide

end Buffer

end CodeEditor
