import CodeEditor.Gutter
import CodeEditor.Proofs.Lines

/-! # A window on the layout

The lines of a text are laid out in fragments once and for all, whatever is shown of them. The rows of
the gutter are those of this layout from the last fragment on that starts at or before the position in
the upper left corner.
-/

namespace CodeEditor.Gutter

/-! ## The whole layout -/

/-- Line number and first position of the fragments of one line. -/
def lineFragments (number start : Nat) : List Nat → List (Option Nat × Nat)
  | [] => []
  | first :: rest => (some number, start + first) :: rest.map fun offset => (none, start + offset)

/-- The fragments of all lines, one line after the other. -/
def allFragments (width : Char → Nat) (wrap : Option Nat) (b : Buffer) : List (Option Nat × Nat) :=
  (List.range b.lineCount).flatMap fun line =>
    lineFragments (line + 1) (b.lineStart line) (fragmentStarts width wrap (b.lineText line))

/-- The fragment at `k` is the last one that starts at or before a position. -/
def IsLastAt (layout : List (Option Nat × Nat)) (position k : Nat) : Prop :=
  ∃ fragment, layout[k]? = some fragment ∧ fragment.2 ≤ position ∧
    ∀ later ∈ layout.drop (k + 1), position < later.2

/-- Rows for `count` fragments of a layout, from the one at `k` on. -/
def window (layout : List (Option Nat × Nat)) (k count : Nat) : List GutterRow :=
  ((layout.drop k).take count).mapIdx fun index fragment => ⟨index, fragment.1, fragment.2⟩

variable {width : Char → Nat} {wrap : Option Nat}

/-! ## Where the fragments of a line start -/

theorem breaks_bounds {columns index used : Nat} {line : List Char} :
    ∀ start ∈ breaks width columns index used line,
      index ≤ start ∧ (used = 0 → index < start) ∧ start < index + line.length := by
  induction line generalizing index used with
  | nil => simp [breaks]
  | cons c cs ih =>
    intro start hstart
    rw [breaks] at hstart
    split at hstart
    · next hfull =>
      rcases List.mem_cons.mp hstart with rfl | hlater
      · simp only [List.length_cons]
        omega
      · obtain ⟨h1, -, h3⟩ := ih start hlater
        simp only [List.length_cons]
        omega
    · obtain ⟨h1, -, h3⟩ := ih start hstart
      simp only [List.length_cons]
      omega

theorem breaks_sorted {columns index used : Nat} {line : List Char} :
    (breaks width columns index used line).Pairwise (· < ·) := by
  induction line generalizing index used with
  | nil => simp [breaks]
  | cons c cs ih =>
    rw [breaks]
    split
    · refine List.pairwise_cons.mpr ⟨?_, ih⟩
      intro start hstart
      have := (breaks_bounds start hstart).1
      omega
    · exact ih

theorem exists_fragmentStarts (width : Char → Nat) (wrap : Option Nat) (line : List Char) :
    ∃ rest, fragmentStarts width wrap line = 0 :: rest ∧ (0 :: rest).Pairwise (· < ·) ∧
      ∀ start ∈ rest, start < line.length := by
  unfold fragmentStarts
  split
  · exact ⟨[], rfl, by simp, by simp⟩
  · next columns =>
    split
    · exact ⟨[], rfl, by simp, by simp⟩
    · refine ⟨_, rfl, List.pairwise_cons.mpr ⟨?_, breaks_sorted⟩, ?_⟩
      · intro start hstart
        exact (breaks_bounds start hstart).2.1 rfl
      · intro start hstart
        have := (breaks_bounds start hstart).2.2
        omega

/-! ## Fragments from a column on -/

/-- All fragments of a line, with whether the line starts with them. -/
def marked (isFirst : Bool) : List Nat → List (Bool × Nat)
  | [] => []
  | start :: rest => (isFirst, start) :: rest.map fun later => (false, later)

theorem fragmentsFrom_of_lt {column start : Nat} {isFirst : Bool} {rest : List Nat}
    (h : ∀ later ∈ rest, column < later) :
    fragmentsFrom column isFirst (start :: rest) = marked isFirst (start :: rest) := by
  induction rest generalizing isFirst start with
  | nil => rfl
  | cons next rest ih =>
    obtain ⟨hnext, hrest⟩ := List.forall_mem_cons.mp h
    rw [fragmentsFrom, if_neg (by omega), ih hrest]
    rfl

theorem exists_fragmentsFrom {column start : Nat} (isFirst : Bool) {rest : List Nat}
    (sorted : (start :: rest).Pairwise (· < ·)) (h : start ≤ column) :
    ∃ left fragment more, marked isFirst (start :: rest) = left ++ fragment :: more ∧
      fragmentsFrom column isFirst (start :: rest) = fragment :: more ∧ fragment.2 ≤ column ∧
      ∀ later ∈ more, column < later.2 := by
  induction rest generalizing isFirst start with
  | nil => exact ⟨[], (isFirst, start), [], rfl, rfl, h, by simp⟩
  | cons next rest ih =>
    have hrest := (List.pairwise_cons.mp sorted).2
    by_cases hnext : next ≤ column
    · obtain ⟨left, fragment, more, hmarked, hfrom, hbounds⟩ := ih false hrest hnext
      refine ⟨(isFirst, start) :: left, fragment, more, ?_, ?_, hbounds⟩
      · rw [List.cons_append, ← hmarked]
        rfl
      · rw [fragmentsFrom, if_pos hnext, hfrom]
    · have hlater : ∀ later ∈ next :: rest, column < later := by
        refine List.forall_mem_cons.mpr ⟨by omega, ?_⟩
        intro later hmem
        have := (List.pairwise_cons.mp hrest).1 later hmem
        omega
      refine ⟨[], (isFirst, start), (next :: rest).map fun later => (false, later), rfl,
        fragmentsFrom_of_lt hlater, h, ?_⟩
      simpa using hlater

/-! ## One line after the other -/

/-- Where a fragment of a line stands in the text. -/
def place (number start : Nat) (fragment : Bool × Nat) : Option Nat × Nat :=
  (if fragment.1 then some number else none, start + fragment.2)

theorem map_place_marked (number start : Nat) (starts : List Nat) :
    (marked true starts).map (place number start) = lineFragments number start starts := by
  cases starts with
  | nil => rfl
  | cons first rest => simp [marked, lineFragments, place]

theorem fragments_cons (number start column : Nat) (l : List Char) (ls : List (List Char)) :
    fragments width wrap number start column (l :: ls) =
      (fragmentsFrom column true (fragmentStarts width wrap (Text.withoutFeed l))).map
          (place number start) ++
        fragments width wrap (number + 1) (start + l.length) 0 ls := rfl

theorem fragments_cons_zero (number start : Nat) (l : List Char) (ls : List (List Char)) :
    fragments width wrap number start 0 (l :: ls) =
      lineFragments number start (fragmentStarts width wrap (Text.withoutFeed l)) ++
        fragments width wrap (number + 1) (start + l.length) 0 ls := by
  obtain ⟨rest, hstarts, hsorted, -⟩ :=
    exists_fragmentStarts width wrap (Text.withoutFeed l)
  rw [fragments_cons, hstarts, fragmentsFrom_of_lt (List.pairwise_cons.mp hsorted).1,
    map_place_marked]

theorem fragments_append (number start : Nat) (before ls : List (List Char)) :
    fragments width wrap number start 0 (before ++ ls) =
      fragments width wrap number start 0 before ++
        fragments width wrap (number + before.length) (start + before.flatten.length) 0 ls := by
  induction before generalizing number start with
  | nil => rfl
  | cons l before ih =>
    rw [List.cons_append, fragments_cons, ih, fragments_cons, List.append_assoc]
    simp only [List.length_cons, List.flatten_cons, List.length_append, Nat.add_assoc,
      Nat.add_comm 1]

theorem le_of_mem_fragments {number start column : Nat} {ls : List (List Char)} :
    ∀ fragment ∈ fragments width wrap number start column ls, start ≤ fragment.2 := by
  induction ls generalizing number start column with
  | nil => simp [fragments]
  | cons l ls ih =>
    intro fragment hmem
    rw [fragments_cons] at hmem
    rcases List.mem_append.mp hmem with hline | hrest
    · obtain ⟨mark, -, rfl⟩ := List.mem_map.mp hline
      exact Nat.le_add_right start mark.2
    · have := ih fragment hrest
      omega

theorem fragments_eq_flatMap (number start : Nat) (ls : List (List Char)) :
    fragments width wrap number start 0 ls =
      (List.range ls.length).flatMap fun line =>
        lineFragments (number + line) (start + (ls.take line).flatten.length)
          (fragmentStarts width wrap (Text.withoutFeed ((ls[line]?).getD []))) := by
  induction ls generalizing number start with
  | nil => rfl
  | cons l ls ih =>
    rw [fragments_cons_zero, ih, List.length_cons, List.range_succ_eq_map, List.flatMap_cons,
      List.flatMap_map]
    simp [Nat.add_assoc, Nat.add_comm 1]

theorem allFragments_eq (width : Char → Nat) (wrap : Option Nat) (b : Buffer) :
    allFragments width wrap b = fragments width wrap 1 0 0 b.lines := by
  rw [fragments_eq_flatMap]
  simp only [Nat.zero_add, Nat.add_comm 1]
  rfl

/-! ## What is shown -/

/-- The fragments from a column on, which may be past the end of its line, are the layout from the last
one on that starts at or before the position. -/
theorem exists_front (width : Char → Nat) (wrap : Option Nat) {b : Buffer} {l : List Char}
    {before after : List (List Char)} {column : Nat} (hlines : b.lines = before ++ l :: after)
    (hcolumn : after ≠ [] → column < l.length) :
    ∃ front fragment behind, allFragments width wrap b = front ++ fragment :: behind ∧
      fragments width wrap (before.length + 1) before.flatten.length
        (min column (b.lineLength before.length)) (l :: after) = fragment :: behind ∧
      fragment.2 ≤ before.flatten.length + column ∧
      ∀ later ∈ behind, before.flatten.length + column < later.2 := by
  obtain ⟨rest, hstarts, hsorted, hinside⟩ :=
    exists_fragmentStarts width wrap (Text.withoutFeed l)
  obtain ⟨left, fragment, more, hmarked, hfrom, hfragment, hmore⟩ :=
    exists_fragmentsFrom true hsorted
      (Nat.zero_le (min column (b.lineLength before.length)))
  let put := place (before.length + 1) before.flatten.length
  let next := fragments width wrap (before.length + 1 + 1) (before.flatten.length + l.length) 0 after
  refine ⟨fragments width wrap 1 0 0 before ++ left.map put, put fragment, more.map put ++ next,
    ?_, ?_, ?_, ?_⟩
  · rw [allFragments_eq, hlines, fragments_append, fragments_cons_zero, hstarts,
      ← map_place_marked, hmarked]
    simp [put, next, Nat.add_comm 1]
  · rw [fragments_cons, hstarts, hfrom]
    rfl
  · show before.flatten.length + fragment.2 ≤ _
    omega
  · intro later hlater
    rcases List.mem_append.mp hlater with hline | hnext
    · obtain ⟨mark, hmark, rfl⟩ := List.mem_map.mp hline
      show _ < before.flatten.length + mark.2
      have hlt := hmore mark hmark
      -- A fragment that is left starts inside of its line, so the column has not been cut off.
      have hmem : mark.2 ∈ 0 :: rest := by
        have hin : mark ∈ marked true (0 :: rest) := by simp [hmarked, hmark]
        rw [marked] at hin
        rcases List.mem_cons.mp hin with rfl | hin
        · exact List.mem_cons_self
        · obtain ⟨start, hstart, rfl⟩ := List.mem_map.mp hin
          exact List.mem_cons_of_mem 0 hstart
      have hrest : mark.2 < (Text.withoutFeed l).length := by
        rcases List.mem_cons.mp hmem with hzero | hstart
        · omega
        · exact hinside mark.2 hstart
      have hlength : b.lineLength before.length = (Text.withoutFeed l).length := by
        rw [Buffer.lineLength, Buffer.lineText_eq hlines]
      omega
    · have hmore : after ≠ [] := by
        rintro rfl
        simp [next, fragments] at hnext
      have hstart := le_of_mem_fragments later hnext
      have := hcolumn hmore
      omega

theorem numbered_eq_mapIdx (index : Nat) (layout : List (Option Nat × Nat)) :
    numbered index layout =
      layout.mapIdx fun i fragment => ⟨index + i, fragment.1, fragment.2⟩ := by
  induction layout generalizing index with
  | nil => rfl
  | cons fragment layout ih =>
    rw [List.mapIdx_cons, numbered, ih]
    simp [Nat.add_assoc, Nat.add_comm 1]

theorem IsLastAt.unique {layout : List (Option Nat × Nat)} {position k k' : Nat}
    (h : IsLastAt layout position k) (h' : IsLastAt layout position k') : k = k' := by
  have hle : ∀ {i j : Nat}, IsLastAt layout position i → IsLastAt layout position j → j ≤ i := by
    rintro i j ⟨-, -, -, hlater⟩ ⟨fragment, hj, hstart, -⟩
    refine Nat.le_of_not_lt fun hij => ?_
    have hmem : fragment ∈ layout.drop (i + 1) := by
      refine List.mem_of_getElem? (i := j - (i + 1)) ?_
      rw [List.getElem?_drop, Nat.add_sub_cancel' (by omega), hj]
    have := hlater fragment hmem
    omega
  exact Nat.le_antisymm (hle h' h) (hle h h')

theorem rows_eq_window (width : Char → Nat) (b : Buffer) (v : Viewport) :
    ∃ k, IsLastAt (allFragments width v.wrap b) (min v.first b.length) k ∧
      rows width b v = window (allFragments width v.wrap b) k v.rows := by
  obtain ⟨before, l, after, column, hlines, hsum, hcolumn⟩ :=
    Buffer.exists_line (Text.lines_ne_nil b.text) (min v.first b.length)
  have hlines : b.lines = before ++ l :: after := hlines
  obtain ⟨front, fragment, behind, hall, hfrom, hfragment, hbehind⟩ :=
    exists_front width v.wrap hlines hcolumn
  have hat : b.lineColumn v.first = (before.length, min column (b.lineLength before.length)) := by
    rw [← Buffer.lineColumn_min, hsum, Buffer.lineColumn_eq hlines hcolumn (by omega)]
  have hdrop : b.lines.drop before.length = l :: after := by
    simp [hlines]
  refine ⟨front.length, ⟨fragment, by simp [hall], by omega, ?_⟩, ?_⟩
  · intro later hlater
    rw [hsum]
    have hdropped : (front ++ fragment :: behind).drop (front.length + 1) = behind := by simp
    rw [hall, hdropped] at hlater
    exact hbehind later hlater
  · unfold rows window
    simp only [hat, Buffer.lineStart_eq hlines, hdrop, hfrom, hall, List.drop_left,
      numbered_eq_mapIdx, Nat.zero_add]

/-- Whatever the position and however many rows, unless there cannot be room for so many. -/
theorem layout_is_window (width : Char → Nat) (g : Gutter) (b : Buffer) (v : Viewport) :
    (∃ k, IsLastAt (allFragments width v.wrap b) (min v.first b.length) k ∧
      rows width b v = window (allFragments width v.wrap b) k v.rows) ∧
    g.layout? b v =
      if maxRows < v.rows then none else some (⟨false⟩, rows Text.columns b v) :=
  ⟨rows_eq_window width b v, rfl⟩

example : rows (fun _ => 1) ⟨['a', 'b', 'c', '\n', 'd']⟩ ⟨3, 9, some 2⟩ =
    [⟨0, none, 2⟩, ⟨1, some 2, 4⟩] := by decide

/-- One line is laid out in no row when room for more rows than there are bytes is asked for. -/
theorem layout_fails_for_many_rows :
    ¬ ∀ (g : Gutter) (b : Buffer) (v : Viewport), v.rows < Nat.pow 2 64 →
      ∃ shown, g.layout? b v = some shown := by
  intro h
  obtain ⟨shown, hshown⟩ := h Gutter.new ⟨['x']⟩ ⟨0, Nat.pow 2 64 - 1, none⟩ (by decide)
  rw [layout?, if_pos (by decide)] at hshown
  cases hshown

end CodeEditor.Gutter
