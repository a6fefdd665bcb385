import CodeEditor.Proofs.Checked.Buffer
import CodeEditor.Proofs.Gutter

/-! # Rows by checked accesses

The rows of the gutter once more, put down one by one, by accesses that answer only for lines that are
there and by sums that answer only for numbers of 64 bits. Whatever part of a short text is shown, they
answer with the rows of the layout. Only the room for the rows, which is asked for first, cannot always
be had.
-/

namespace CodeEditor

open Machine

theorem Text.columns_le_two (c : Char) : Text.columns c ≤ 2 := by
  unfold columns columns?
  simp only
  split_ifs <;> simp

theorem Text.length_lines_le (text : List Char) : (Text.lines text).length ≤ text.length + 1 := by
  induction text with
  | nil => simp [lines]
  | cons c cs ih =>
    rw [lines, List.length_cons]
    split
    · rw [List.length_cons]
      omega
    · cases h : lines cs with
      | nil => simp
      | cons l ls =>
        rw [h, List.length_cons] at ih
        rw [List.length_cons]
        omega

theorem Buffer.lineStart_succ {b : Buffer} {l : List Char} {front back : List (List Char)}
    (h : b.lines = front ++ l :: back) :
    b.lineStart (front.length + 1) = front.flatten.length + l.length := by
  rw [lineStart, h, List.take_length_add_append]
  simp

namespace Gutter

/-! ## Rows one by one -/

/-- Whether a character no longer fits into its row, when columns of the row are in use. -/
def isFull? (columns used : Nat) (c : Char) : Option Bool :=
  if 0 < used then (add? used (Text.columns c)).map fun sum => decide (columns < sum)
  else some false

def breaks? (columns index used : Nat) : List Char → Option (List Nat)
  | [] => some []
  | c :: cs => do
    let full ← isFull? columns used c
    let used ← add? (if full then 0 else used) (Text.columns c)
    let next ← add? index 1
    let later ← breaks? columns next used cs
    some (if full then index :: later else later)

def fragmentStarts? (wrap : Option Nat) (line : List Char) : Option (List Nat) :=
  match wrap with
  | none => some [0]
  | some columns => if columns = 0 then some [0] else (breaks? columns 0 0 line).map (0 :: ·)

/-- The number beside the fragment of a line at `index`. -/
def number? (line index : Nat) : Option (Option Nat) :=
  if index = 0 then (add? line 1).map some else some none

/-- Puts down rows for the fragments of a line that do not end at or before a column, until there are
`count`. The end of the last fragment is the largest number there is. -/
def lineRows? (count line start column index : Nat) (rows : List GutterRow) :
    List Nat → Option (List GutterRow)
  | [] => some rows
  | offset :: rest => do
    let next ← add? index 1
    if rest.head?.getD (2 ^ 64 - 1) ≤ column then lineRows? count line start column next rows rest
    else
      let number ← number? line index
      let first ← add? start offset
      let rows := rows ++ [⟨rows.length, number, first⟩]
      if rows.length = count then some rows
      else lineRows? count line start column next rows rest

/-- Puts down rows for the lines from one on that are `left`, until there are as many as are shown. -/
def linesRows? (b : Buffer) (v : Viewport) (line column : Nat) (rows : List GutterRow) :
    Nat → Option (List GutterRow)
  | 0 => some rows
  | left + 1 => do
    let start ← b.positionOf? line 0
    let text ← b.lineText? line
    let starts ← fragmentStarts? v.wrap text
    let rows ← lineRows? v.rows line start column 0 rows starts
    if rows.length = v.rows then some rows
    else linesRows? b v (← add? line 1) 0 rows left

def rows? (b : Buffer) (v : Viewport) : Option (List GutterRow) :=
  if v.rows = 0 then some []
  else do
    let (line, column) ← b.lineColumn? (min v.first b.length)
    linesRows? b v line column [] (b.lineCount - line)

/-- Room for rows of 32 bytes, of which there is none for more bytes than a signed number counts. -/
def room? (count : Nat) : Option Unit := if 32 * count < 2 ^ 63 then some () else none

def checkedLayout? (_ : Gutter) (b : Buffer) (v : Viewport) : Option (Gutter × List GutterRow) := do
  room? v.rows
  let rows ← rows? b v
  some (⟨false⟩, rows)

/-! ## Fragments -/

theorem isFull?_eq (columns : Nat) {used : Nat} {c : Char} (fits : used + Text.columns c < 2 ^ 64) :
    isFull? columns used c = some (decide (0 < used ∧ columns < used + Text.columns c)) := by
  unfold isFull?
  by_cases hused : 0 < used
  · simp only [hused, if_true, add?_eq fits, Option.map_some, true_and]
  · simp only [hused, if_false, false_and, decide_false]

theorem breaks?_eq {columns index used : Nat} {line : List Char}
    (narrow : used + 2 * line.length < 2 ^ 64) (inside : index + line.length < 2 ^ 64) :
    breaks? columns index used line = some (breaks Text.columns columns index used line) := by
  induction line generalizing index used with
  | nil => rfl
  | cons c cs ih =>
    rw [List.length_cons] at narrow inside
    have hwidth := Text.columns_le_two c
    have hsum : used + Text.columns c < 2 ^ 64 := by omega
    have hnext : add? index 1 = some (index + 1) := add?_eq (by omega)
    rw [breaks?, breaks]
    simp only [isFull?_eq columns hsum, hnext, Option.bind_eq_bind, Option.bind_some,
      decide_eq_true_eq]
    split
    · have hused : add? 0 (Text.columns c) = some (0 + Text.columns c) := add?_eq (by omega)
      rw [hused, Option.bind_some, ih (by omega) (by omega), Nat.zero_add, Option.bind_some]
    · rw [add?_eq hsum, Option.bind_some, ih (by omega) (by omega), Option.bind_some]

theorem fragmentStarts?_eq (wrap : Option Nat) {line : List Char} (short : line.length < 2 ^ 63) :
    fragmentStarts? wrap line = some (fragmentStarts Text.columns wrap line) := by
  cases wrap with
  | none => rfl
  | some columns =>
    unfold fragmentStarts? fragmentStarts
    by_cases hnone : columns = 0
    · simp only [hnone, if_true]
    · have hbreaks : breaks? columns 0 0 line = some (breaks Text.columns columns 0 0 line) :=
        breaks?_eq (by omega) (by omega)
      simp only [hnone, if_false, hbreaks, Option.map_some]

theorem length_breaks_le (width : Char → Nat) (columns index used : Nat) (line : List Char) :
    (breaks width columns index used line).length ≤ line.length := by
  induction line generalizing index used with
  | nil => simp [breaks]
  | cons c cs ih =>
    rw [breaks, List.length_cons]
    split
    · exact Nat.succ_le_succ (ih (index + 1) (width c))
    · exact Nat.le_succ_of_le (ih (index + 1) (used + width c))

theorem length_fragmentStarts_le (width : Char → Nat) (wrap : Option Nat) (line : List Char) :
    (fragmentStarts width wrap line).length ≤ line.length + 1 := by
  unfold fragmentStarts
  split
  · simp
  · split
    · simp
    · exact Nat.succ_le_succ (length_breaks_le width _ 0 0 line)

/-! ## Rows behind others -/

/-- Rows for the fragments of a layout, behind those that there are, until there are `count`. -/
def fill (count : Nat) (rows : List GutterRow) (layout : List (Option Nat × Nat)) :
    List GutterRow :=
  rows ++ numbered rows.length (layout.take (count - rows.length))

variable {count : Nat} {rows : List GutterRow}

theorem numbered_append (index : Nat) (front back : List (Option Nat × Nat)) :
    numbered index (front ++ back) = numbered index front ++ numbered (index + front.length) back := by
  induction front generalizing index with
  | nil => rfl
  | cons fragment front ih =>
    rw [List.cons_append, numbered, numbered, ih, List.cons_append, List.length_cons,
      Nat.add_assoc, Nat.add_comm 1]

theorem length_numbered (index : Nat) (layout : List (Option Nat × Nat)) :
    (numbered index layout).length = layout.length := by
  rw [numbered_eq_mapIdx, List.length_mapIdx]

@[simp]
theorem fill_nil (count : Nat) (rows : List GutterRow) : fill count rows [] = rows := by
  simp [fill, numbered]

theorem fill_of_full (full : count ≤ rows.length) (layout : List (Option Nat × Nat)) :
    fill count rows layout = rows := by
  rw [fill, Nat.sub_eq_zero_of_le full, List.take_zero, numbered, List.append_nil]

theorem length_fill_le (room : rows.length ≤ count) (layout : List (Option Nat × Nat)) :
    (fill count rows layout).length ≤ count := by
  rw [fill, List.length_append, length_numbered, List.length_take]
  omega

theorem fill_append (count : Nat) (rows : List GutterRow) (front back : List (Option Nat × Nat)) :
    fill count rows (front ++ back) = fill count (fill count rows front) back := by
  have hlength : (fill count rows front).length =
      rows.length + min (count - rows.length) front.length := by
    rw [fill, List.length_append, length_numbered, List.length_take]
  have hleft : count - (fill count rows front).length = count - rows.length - front.length := by
    omega
  rw [fill, List.take_append, numbered_append, List.length_take, ← hlength, ← hleft,
    ← List.append_assoc]
  rfl

theorem fill_cons (room : rows.length < count) (fragment : Option Nat × Nat)
    (layout : List (Option Nat × Nat)) :
    fill count rows (fragment :: layout) =
      fill count (rows ++ [⟨rows.length, fragment.1, fragment.2⟩]) layout := by
  obtain ⟨more, hmore⟩ : ∃ more, count - rows.length = more + 1 :=
    ⟨count - rows.length - 1, by omega⟩
  have hfirst : fill count rows [fragment] = rows ++ [⟨rows.length, fragment.1, fragment.2⟩] := by
    simp [fill, hmore, numbered]
  rw [← List.singleton_append, fill_append, hfirst]

/-! ## Rows of a line -/

theorem number?_eq {line : Nat} (counted : line + 1 < 2 ^ 64) (index : Nat) :
    number? line index = some (if index = 0 then some (line + 1) else none) := by
  unfold number?
  rw [add?_eq counted]
  split <;> rfl

theorem lineRows?_eq {line start column index : Nat} {offsets : List Nat}
    (room : rows.length < count) (reached : column < 2 ^ 64 - 1)
    (few : index + offsets.length < 2 ^ 64) (counted : line + 1 < 2 ^ 64)
    (inside : ∀ offset ∈ offsets, start + offset < 2 ^ 64) :
    lineRows? count line start column index rows offsets =
      some (fill count rows
        ((fragmentsFrom column (index = 0) offsets).map (place (line + 1) start))) := by
  induction offsets generalizing index rows with
  | nil => rw [lineRows?, fragmentsFrom, List.map_nil, fill_nil]
  | cons offset rest ih =>
    rw [List.length_cons] at few
    obtain ⟨hfirst, hinside⟩ := List.forall_mem_cons.mp inside
    have hnext : add? index 1 = some (index + 1) := add?_eq (by omega)
    have hlater : decide (index + 1 = 0) = false := decide_eq_false (Nat.succ_ne_zero index)
    rw [lineRows?, hnext, Option.bind_eq_bind, Option.bind_some]
    by_cases hskip : rest.head?.getD (2 ^ 64 - 1) ≤ column
    · cases rest with
      | nil => exact absurd hskip (Nat.not_le.mpr reached)
      | cons next rest =>
        have hfrom : fragmentsFrom column (index = 0) (offset :: next :: rest) =
            fragmentsFrom column false (next :: rest) := if_pos hskip
        rw [if_pos hskip, ih room (by omega) hinside, hlater, hfrom]
    · have hfrom : fragmentsFrom column (index = 0) (offset :: rest) =
          (decide (index = 0), offset) :: fragmentsFrom column false rest := by
        cases rest with
        | nil => rfl
        | cons next rest => exact if_neg hskip
      have hplace : place (line + 1) start (decide (index = 0), offset) =
          (if index = 0 then some (line + 1) else none, start + offset) := by
        simp [place]
      rw [if_neg hskip, number?_eq counted, add?_eq hfirst, hfrom, List.map_cons, fill_cons room,
        hplace]
      simp only [Option.bind_eq_bind, Option.bind_some]
      generalize hrow : (⟨rows.length, if index = 0 then some (line + 1) else none,
        start + offset⟩ : GutterRow) = row
      have hlength : (rows ++ [row]).length = rows.length + 1 := by simp
      split
      · next hfull => rw [fill_of_full hfull.ge]
      · next hroom => rw [ih (by omega) (by omega) hinside, hlater]

/-! ## Rows of all lines -/

theorem bounds_of_lines {b : Buffer} (short : Text.Short b.text) {l : List Char}
    {front back : List (List Char)} (h : b.lines = front ++ l :: back) :
    front.length < 2 ^ 63 ∧ front.flatten.length + (Text.withoutFeed l).length < 2 ^ 63 := by
  have hlength : b.length < 2 ^ 63 := short.length_lt
  have htotal := Buffer.length_eq_of_lines h
  have hcount : b.lineCount ≤ b.length + 1 := Text.length_lines_le b.text
  have hshown : (Text.withoutFeed l).length ≤ l.length := by simp [Text.withoutFeed]
  rw [Buffer.lineCount, h, List.length_append, List.length_cons] at hcount
  constructor <;> omega

theorem lineRows?_of_lines {b : Buffer} (short : Text.Short b.text) {l : List Char}
    {front back : List (List Char)} (h : b.lines = front ++ l :: back) {column : Nat}
    (room : rows.length < count) (reached : column < 2 ^ 64 - 1) (wrap : Option Nat) :
    lineRows? count front.length front.flatten.length column 0 rows
        (fragmentStarts Text.columns wrap (Text.withoutFeed l)) =
      some (fill count rows
        ((fragmentsFrom column true (fragmentStarts Text.columns wrap (Text.withoutFeed l))).map
          (place (front.length + 1) front.flatten.length))) := by
  obtain ⟨hcounted, hreached⟩ := bounds_of_lines short h
  have hstarts := length_fragmentStarts_le Text.columns wrap (Text.withoutFeed l)
  obtain ⟨rest, hshape, -, hinside⟩ := exists_fragmentStarts Text.columns wrap (Text.withoutFeed l)
  refine lineRows?_eq room reached (by omega) (by omega) ?_
  intro offset hoffset
  rw [hshape] at hoffset
  rcases List.mem_cons.mp hoffset with rfl | hlater
  · omega
  · have := hinside offset hlater
    omega

theorem linesRows?_eq {b : Buffer} (short : Text.Short b.text) {v : Viewport}
    {line left column : Nat} (room : rows.length < v.rows) (reached : column < 2 ^ 64 - 1)
    (all : line + left = b.lineCount) :
    linesRows? b v line column rows left =
      some (fill v.rows rows (fragments Text.columns v.wrap (line + 1) (b.lineStart line) column
        (b.lines.drop line))) := by
  induction left generalizing line column rows with
  | zero =>
    have hnone : b.lines.drop line = [] := List.drop_eq_nil_of_le (Nat.le_of_eq all.symm)
    rw [linesRows?, hnone, fragments, fill_nil]
  | succ left ih =>
    have hline : line < b.lineCount := by omega
    obtain ⟨front, l, back, hlines, rfl⟩ := Buffer.exists_lines_of_lt hline
    obtain ⟨hcounted, hreached⟩ := bounds_of_lines short hlines
    have hstart : b.positionOf? front.length 0 = some front.flatten.length := by
      rw [Buffer.positionOf?_eq short, Buffer.positionOf, if_neg (Nat.not_le.mpr hline),
        Buffer.lineStart_eq hlines, Nat.zero_min, Nat.add_zero]
    have hstarts : fragmentStarts? v.wrap (Text.withoutFeed l) =
        some (fragmentStarts Text.columns v.wrap (Text.withoutFeed l)) :=
      fragmentStarts?_eq v.wrap (by omega)
    have hnext : add? front.length 1 = some (front.length + 1) := add?_eq (by omega)
    have hhere : b.lines.drop front.length = l :: back := by simp [hlines]
    have hbehind : b.lines.drop (front.length + 1) = back := by
      rw [hlines, List.drop_length_add_append]
      rfl
    rw [linesRows?, hstart, Buffer.lineText?_eq, Buffer.lineText_eq hlines, hhere, fragments_cons,
      Buffer.lineStart_eq hlines, fill_append]
    simp only [hstarts, lineRows?_of_lines short hlines room reached, hnext, Option.bind_eq_bind,
      Option.bind_some]
    generalize hrows : fill v.rows rows
      ((fragmentsFrom column true (fragmentStarts Text.columns v.wrap (Text.withoutFeed l))).map
        (place (front.length + 1) front.flatten.length)) = rows'
    have hle : rows'.length ≤ v.rows := hrows ▸ length_fill_le room.le _
    -- Rows that are as many as are shown leave no room for those of the lines behind.
    split
    · next hfull => rw [fill_of_full hfull.ge]
    · next hroom =>
      rw [ih (by omega) (by omega) (by omega), Buffer.lineStart_succ hlines, hbehind]

/-! ## Rows for what is shown -/

theorem rows?_eq {b : Buffer} (short : Text.Short b.text) (v : Viewport) :
    rows? b v = some (Gutter.rows Text.columns b v) := by
  have hlength : b.length < 2 ^ 63 := short.length_lt
  have hthere := (Buffer.locate_eq b (min v.first b.length)).1
  have hshown := b.lineLength_le (Buffer.locate b.lines (min v.first b.length)).1
  rw [rows?, Gutter.rows, Buffer.lineColumn?_eq, Buffer.lineColumn_min]
  simp only [Buffer.lineColumn, Option.bind_eq_bind, Option.bind_some]
  split
  · next hnone => rw [hnone, List.take_zero, numbered]
  · next hsome =>
    have hroom : ([] : List GutterRow).length < v.rows := Nat.pos_of_ne_zero hsome
    have hreached : min (Buffer.locate b.lines (min v.first b.length)).2
        (b.lineLength (Buffer.locate b.lines (min v.first b.length)).1) < 2 ^ 64 - 1 := by omega
    exact linesRows?_eq short hroom hreached (Nat.add_sub_cancel' hthere.le)

theorem room?_eq (count : Nat) : room? count = if maxRows < count then none else some () := by
  have hmost : maxRows = 2 ^ 58 - 1 := by decide
  rw [room?, hmost]
  split
  · rw [if_neg (by omega)]
  · rw [if_pos (by omega)]

/-- Whatever part of a text is shown, its rows are found within the bounds. All that can be refused is
room for them, and it is refused for too many only. -/
theorem only_room_is_refused (g : Gutter) {b : Buffer} (short : Text.Short b.text) (v : Viewport) :
    rows? b v = some (Gutter.rows Text.columns b v) ∧ g.checkedLayout? b v = g.layout? b v ∧
      (g.checkedLayout? b v = none ↔ 2 ^ 63 ≤ 32 * v.rows) := by
  have hrows := rows?_eq short v
  refine ⟨hrows, ?_, ?_⟩
  · rw [checkedLayout?, layout?, room?_eq, hrows]
    split <;> rfl
  · rw [checkedLayout?, room?, hrows]
    split
    · next hfew => simpa using hfew
    · next hmany => simpa using hmany

theorem only_room_is_refused_at_end :
    Text.Short ['a', 'b', '\r', '\n'] ∧
      Gutter.new.checkedLayout? ⟨['a', 'b', '\r', '\n']⟩ ⟨2 ^ 64 - 1, 9, some 1⟩ =
        some (⟨false⟩, [⟨0, some 2, 4⟩]) := by
  have short : Text.Short ['a', 'b', '\r', '\n'] := by
    unfold Text.Short
    decide
  obtain ⟨-, hsame, -⟩ := only_room_is_refused Gutter.new (b := ⟨['a', 'b', '\r', '\n']⟩) short
    ⟨2 ^ 64 - 1, 9, some 1⟩
  exact ⟨short, hsame.trans (by decide)⟩

/-- Even for no text at all there is no room for as many rows as can be counted. -/
theorem room_for_all_rows_is_refused :
    ¬ ∀ (g : Gutter) (b : Buffer) (v : Viewport), Text.Short b.text → v.first < 2 ^ 64 →
      v.rows < 2 ^ 64 → (∀ columns ∈ v.wrap, columns < 2 ^ 64) →
        ∃ shown, g.checkedLayout? b v = some shown := by
  intro h
  have short : Text.Short ([] : List Char) := by
    unfold Text.Short
    decide
  obtain ⟨shown, hshown⟩ := h Gutter.new ⟨[]⟩ ⟨0, 2 ^ 64 - 1, none⟩ short (by decide) (by decide)
    (by simp)
  have hmany : room? (2 ^ 64 - 1) = none := if_neg (by decide)
  simp only [checkedLayout?, hmany, Option.bind_eq_bind, Option.bind_none] at hshown
  cases hshown

end Gutter

end CodeEditor
