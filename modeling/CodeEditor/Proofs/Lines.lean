import CodeEditor.Buffer

/-! # Lines and positions

Every position lies in one line, so far behind its start. A line that ends with a feed or a return is
shorter than the stretch it takes up; a line that ends otherwise fills it, and the position behind its
last column is the start of the next line.
-/

namespace CodeEditor

namespace Text

/-! ## What ends a line -/

theorem exists_break_of_lines {text l next : List Char} {before after : List (List Char)}
    (h : lines text = before ++ l :: next :: after) :
    ∃ init c, l = init ++ [c] ∧ breaksAfter c (next :: after).flatten.head? = true := by
  induction text generalizing before l with
  | nil =>
    simp only [lines] at h
    cases before with
    | nil => simp at h
    | cons b bs => simp at h
  | cons c cs ih =>
    simp only [lines] at h
    split at h
    · next hbreak =>
      cases before with
      | nil =>
        obtain ⟨rfl, hrest⟩ := List.cons.inj h
        refine ⟨[], c, rfl, ?_⟩
        rwa [← hrest, flatten_lines]
      | cons b bs => exact ih (List.cons.inj h).2
    · split at h
      · next hnil => exact absurd hnil (lines_ne_nil cs)
      · next first rest hlines =>
        cases before with
        | nil =>
          obtain ⟨rfl, rfl⟩ := List.cons.inj h
          obtain ⟨init, d, rfl, hend⟩ := @ih first [] hlines
          exact ⟨c :: init, d, rfl, hend⟩
        | cons b bs =>
          obtain ⟨rfl, rfl⟩ := List.cons.inj h
          exact @ih l (first :: bs) hlines

theorem exists_end_of_lines {text l : List Char} {before after : List (List Char)}
    (h : lines text = before ++ l :: after) (more : after ≠ []) :
    ∃ init c, l = init ++ [c] ∧ isLineEnd c = true := by
  obtain ⟨next, rest, rfl⟩ := List.exists_cons_of_ne_nil more
  obtain ⟨init, c, hl, hbreak⟩ := exists_break_of_lines h
  rw [breaksAfter, Bool.and_eq_true] at hbreak
  exact ⟨init, c, hl, hbreak.1⟩

theorem not_breaksAfter_of_lines {text front back : List Char} {before after : List (List Char)}
    {c d : Char} (h : lines text = before ++ (front ++ c :: d :: back) :: after) :
    breaksAfter c (some d) = false := by
  induction text generalizing before front with
  | nil =>
    simp only [lines] at h
    cases before with
    | nil => simp at h
    | cons b bs => simp at h
  | cons e es ih =>
    simp only [lines] at h
    split at h
    · cases before with
      | nil =>
        have hlength := congrArg List.length (List.cons.inj h).1
        simp at hlength
        omega
      | cons b bs => exact ih (List.cons.inj h).2
    · next hopen =>
      split at h
      · next hnil => exact absurd hnil (lines_ne_nil es)
      · next first rest hlines =>
        cases before with
        | nil =>
          obtain ⟨hline, rfl⟩ := List.cons.inj h
          cases front with
          | nil =>
            obtain ⟨rfl, rfl⟩ := List.cons.inj hline
            have hnext : es.head? = some d := by
              rw [← flatten_lines es, hlines]
              rfl
            simpa [hnext] using hopen
          | cons f fs =>
            obtain ⟨rfl, rfl⟩ := List.cons.inj hline
            exact @ih fs [] hlines
        | cons b bs =>
          obtain ⟨rfl, rfl⟩ := List.cons.inj h
          exact @ih front (first :: bs) hlines

theorem not_isLineEnd_of_lines {text l : List Char} {before : List (List Char)}
    (h : lines text = before ++ [l]) : ∀ c ∈ l, isLineEnd c = false := by
  induction text generalizing before l with
  | nil =>
    simp only [lines] at h
    cases before with
    | nil => simp_all
    | cons b bs => simp at h
  | cons c cs ih =>
    simp only [lines] at h
    split at h
    · next hbreak =>
      cases before with
      | nil => exact absurd (List.cons.inj h).2 (lines_ne_nil cs)
      | cons b bs => exact ih (List.cons.inj h).2
    · next hbreak =>
      split at h
      · next hnil => exact absurd hnil (lines_ne_nil cs)
      · next first rest hlines =>
        cases before with
        | nil =>
          obtain ⟨rfl, rfl⟩ := List.cons.inj h
          have hrest := @ih _ [] hlines
          have hfirst : first = cs := by simpa [hlines] using flatten_lines cs
          refine List.forall_mem_cons.mpr ⟨?_, hrest⟩
          -- A return that does not end the line would have a feed behind it in the same line.
          cases cs with
          | nil => simpa [breaksAfter] using hbreak
          | cons d ds =>
            have hd : isLineEnd d = false := hrest d (by simp [hfirst])
            have hne : d ≠ '\n' := by
              rintro rfl
              exact absurd hd (by decide)
            simpa [breaksAfter, hne] using hbreak
        | cons b bs =>
          obtain ⟨rfl, rfl⟩ := List.cons.inj h
          exact @ih _ (first :: bs) hlines

/-- The line ends with a character that ends lines but is neither a feed nor a return. -/
def keepsEnd (line : List Char) : Bool :=
  line.getLast?.any fun c => isLineEnd c && c != '\n' && c != '\r'

theorem feedLength_of_keepsEnd {line : List Char} (h : keepsEnd line = true) :
    feedLength line = 0 := by
  rcases List.eq_nil_or_concat line with rfl | ⟨init, c, rfl⟩
  · rfl
  · simp only [keepsEnd, List.concat_eq_append, List.getLast?_concat, Option.any_some,
      Bool.and_eq_true, bne_iff_ne] at h
    unfold feedLength
    simp [h.1.2, h.2]

theorem feedLength_pos {init : List Char} {c : Char} (hend : isLineEnd c = true)
    (h : keepsEnd (init ++ [c]) = false) : 0 < feedLength (init ++ [c]) := by
  have hc : c = '\n' ∨ c = '\r' := by
    simp only [keepsEnd, List.getLast?_concat, Option.any_some, hend, Bool.true_and] at h
    by_cases hn : c = '\n'
    · exact Or.inl hn
    · exact Or.inr (by simpa [hn] using h)
  unfold feedLength
  rw [List.reverse_concat]
  rcases hc with rfl | rfl
  · split <;> simp_all
  · simp

theorem feedLength_singleton (c : Char) :
    feedLength [c] = if c = '\n' ∨ c = '\r' then 1 else 0 := by
  unfold feedLength
  simp only [List.reverse_singleton]
  split <;> simp_all

theorem feedLength_concat (init : List Char) (d c : Char) :
    feedLength (init ++ [d, c]) =
      if c = '\n' then (if d = '\r' then 2 else 1) else if c = '\r' then 1 else 0 := by
  have hreverse : (init ++ [d, c]).reverse = c :: d :: init.reverse := by simp
  unfold feedLength
  rw [hreverse]
  by_cases hc : c = '\n'
  · by_cases hd : d = '\r' <;> simp [hc, hd]
  · by_cases hr : c = '\r' <;> simp [hc, hr]

theorem length_withoutFeed (line : List Char) :
    (withoutFeed line).length = line.length - feedLength line := by
  simp [withoutFeed]

end Text

namespace Buffer

/-! ## Where a position lies -/

theorem exists_line {ls : List (List Char)} (hls : ls ≠ []) (position : Nat) :
    ∃ before l after column, ls = before ++ l :: after ∧
      position = before.flatten.length + column ∧ (after ≠ [] → column < l.length) := by
  induction ls generalizing position with
  | nil => exact absurd rfl hls
  | cons l ls ih =>
    by_cases hhere : ls = [] ∨ position < l.length
    · refine ⟨[], l, ls, position, rfl, by simp, ?_⟩
      intro more
      exact hhere.resolve_left more
    · simp only [not_or, Nat.not_lt] at hhere
      obtain ⟨before, l', after, column, rfl, hsum, hcolumn⟩ := ih hhere.1 (position - l.length)
      refine ⟨l :: before, l', after, column, rfl, ?_, hcolumn⟩
      simp only [List.flatten_cons, List.length_append]
      omega

theorem locate_append {l : List Char} {before after : List (List Char)} {column : Nat}
    (h : after ≠ [] → column < l.length) :
    locate (before ++ l :: after) (before.flatten.length + column) = (before.length, column) := by
  induction before with
  | nil =>
    cases after with
    | nil => simp [locate]
    | cons next after =>
      have hcolumn : column < l.length := h (by simp)
      simp [locate, hcolumn]
  | cons first before ih =>
    have hpast : ¬ (first :: before).flatten.length + column < first.length := by
      simp only [List.flatten_cons, List.length_append]
      omega
    have hrest : (first :: before).flatten.length + column - first.length =
        before.flatten.length + column := by
      simp only [List.flatten_cons, List.length_append]
      omega
    rw [List.cons_append]
    cases htail : before ++ l :: after with
    | nil => simp at htail
    | cons next rest =>
      rw [locate, if_neg hpast, hrest, ← htail, ih]
      · simp
      · simp

variable {b : Buffer} {l : List Char} {before after : List (List Char)}

theorem lineStart_eq (h : b.lines = before ++ l :: after) :
    b.lineStart before.length = before.flatten.length := by
  simp [lineStart, h]

theorem lineText_eq (h : b.lines = before ++ l :: after) :
    b.lineText before.length = Text.withoutFeed l := by
  simp [lineText, h]

theorem lineLength_eq (h : b.lines = before ++ l :: after) :
    b.lineLength before.length = l.length - Text.feedLength l := by
  rw [lineLength, lineText_eq h, Text.length_withoutFeed]

theorem length_eq_of_lines (h : b.lines = before ++ l :: after) :
    b.length = before.flatten.length + l.length + after.flatten.length := by
  have hflat : b.lines.flatten.length = b.length := congrArg List.length (Text.flatten_lines b.text)
  rw [← hflat, h]
  simp only [List.flatten_append, List.flatten_cons, List.length_append]
  omega

theorem exists_lines_of_lt {line : Nat} (h : line < b.lineCount) :
    ∃ before l after, b.lines = before ++ l :: after ∧ before.length = line := by
  refine ⟨b.lines.take line, b.lines[line], b.lines.drop (line + 1), ?_, ?_⟩
  · rw [← List.drop_eq_getElem_cons h, List.take_append_drop]
  · rw [List.length_take]
    exact Nat.min_eq_left (Nat.le_of_lt h)

theorem positionOf_le (b : Buffer) (line column : Nat) : b.positionOf line column ≤ b.length := by
  rcases Nat.lt_or_ge line b.lineCount with hline | hpast
  · obtain ⟨before, l, after, hlines, rfl⟩ := exists_lines_of_lt hline
    have htotal := length_eq_of_lines hlines
    rw [positionOf, if_neg (Nat.not_le.mpr hline), lineStart_eq hlines, lineLength_eq hlines]
    omega
  · exact Nat.le_of_eq (if_pos hpast)

/-! ## There and back -/

/-- The line ends with a character that counts as part of it. -/
def keepsEnd (b : Buffer) (line : Nat) : Bool := Text.keepsEnd ((b.lines[line]?).getD [])

theorem keepsEnd_eq (h : b.lines = before ++ l :: after) :
    b.keepsEnd before.length = Text.keepsEnd l := by
  simp [keepsEnd, h]

theorem lineColumn_eq (h : b.lines = before ++ l :: after) {column : Nat}
    (hcolumn : after ≠ [] → column < l.length) (inside : before.flatten.length + column ≤ b.length) :
    b.lineColumn (before.flatten.length + column) =
      (before.length, min column (b.lineLength before.length)) := by
  simp only [lineColumn, Nat.min_eq_left inside, h, locate_append hcolumn]

theorem lineColumn_min (b : Buffer) (position : Nat) :
    b.lineColumn (min position b.length) = b.lineColumn position := by
  simp only [lineColumn, Nat.min_assoc, Nat.min_self]

/-- Line and column lead to a position and back. Only from the end of a line that keeps what ends it the
way leads on to the next line. -/
theorem lineColumn_positionOf (b : Buffer) {line : Nat} (h : line < b.lineCount) (column : Nat) :
    b.lineColumn (b.positionOf line column) =
      if b.keepsEnd line = true ∧ b.lineLength line ≤ column then (line + 1, 0)
      else (line, min column (b.lineLength line)) := by
  obtain ⟨before, l, after, hlines, rfl⟩ := exists_lines_of_lt h
  have hlength := lineLength_eq hlines
  have htotal := length_eq_of_lines hlines
  have hposition : b.positionOf before.length column =
      before.flatten.length + min column (b.lineLength before.length) := by
    rw [positionOf, if_neg (Nat.not_le.mpr h), lineStart_eq hlines]
  have hstays : (after ≠ [] → min column (b.lineLength before.length) < l.length) →
      b.lineColumn (b.positionOf before.length column) =
        (before.length, min column (b.lineLength before.length)) := by
    intro hcolumn
    rw [hposition, lineColumn_eq hlines hcolumn (by omega), Nat.min_assoc, Nat.min_self]
  rw [keepsEnd_eq hlines]
  cases after with
  | nil =>
    have hnot : Text.keepsEnd l = false := by
      have hend := Text.not_isLineEnd_of_lines hlines
      rcases List.eq_nil_or_concat l with rfl | ⟨init, c, rfl⟩
      · rfl
      · simp [Text.keepsEnd, hend c (by simp)]
    rw [hnot, if_neg (by simp)]
    exact hstays (by simp)
  | cons next after =>
    obtain ⟨init, c, rfl, hend⟩ := Text.exists_end_of_lines hlines (by simp)
    have hfilled : 0 < (init ++ [c]).length := by simp
    cases hkeeps : Text.keepsEnd (init ++ [c]) with
    | false =>
      have hfeed := Text.feedLength_pos hend hkeeps
      rw [if_neg (by simp)]
      exact hstays fun _ => by omega
    | true =>
      have hfeed := Text.feedLength_of_keepsEnd hkeeps
      split
      · next hpast =>
        -- The position is that of the first column of the next line.
        have hnext : b.lines = (before ++ [init ++ [c]]) ++ next :: after := by simp [hlines]
        have hwhole : (before ++ [init ++ [c]]).flatten.length =
            before.flatten.length + (init ++ [c]).length := by simp
        have hzero : after ≠ [] → 0 < next.length := by
          intro more
          obtain ⟨init', c', rfl, -⟩ := Text.exists_end_of_lines hnext more
          simp
        rw [hposition, Nat.min_eq_right hpast.2, hlength, hfeed, Nat.sub_zero, ← hwhole]
        have hstart := lineColumn_eq hnext hzero (by omega)
        simpa using hstart
      · next hnot =>
        have hbefore : column < b.lineLength before.length := by
          simpa using hnot
        exact hstays fun _ => by omega

end Buffer

end CodeEditor
