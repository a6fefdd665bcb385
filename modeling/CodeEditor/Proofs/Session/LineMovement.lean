import CodeEditor.Proofs.Lines
import CodeEditor.Proofs.Session.Action

/-! # Movement along a line

The commands that go to the start and to the end of a line leave the cursor in its line, and do nothing
more the second time. A line that ends neither with a feed nor with a return counts what ends it as its
last column: its end is the start of the next line.
-/

namespace CodeEditor

namespace Buffer

theorem lineColumn_lt (b : Buffer) (position : Nat) : (b.lineColumn position).1 < b.lineCount := by
  obtain ⟨before, l, after, column, hlines, hsum, hcolumn⟩ :=
    exists_line (Text.lines_ne_nil b.text) (min position b.length)
  have hlines : b.lines = before ++ l :: after := hlines
  rw [← lineColumn_min, hsum, lineColumn_eq hlines hcolumn (by omega), lineCount, hlines]
  simp

theorem lineLength_pos_of_keepsEnd {b : Buffer} {line : Nat} (h : line < b.lineCount)
    (hkeeps : b.keepsEnd line = true) : 0 < b.lineLength line := by
  obtain ⟨before, l, after, hlines, rfl⟩ := exists_lines_of_lt h
  rw [keepsEnd_eq hlines] at hkeeps
  rw [lineLength_eq hlines, Text.feedLength_of_keepsEnd hkeeps]
  cases l with
  | nil => simp [Text.keepsEnd] at hkeeps
  | cons c cs => simp

end Buffer

namespace Session

theorem buffer_moveCursor (s : Session) (position : Nat) (select : Bool) :
    (s.moveCursor position select).buffer = s.buffer := rfl

theorem cursor_moveCursor (s : Session) (position : Nat) (select : Bool) :
    (s.moveCursor position select).cursor = min position s.buffer.length := rfl

theorem lineColumn_moveCursor (s : Session) (position : Nat) (select : Bool) :
    (s.moveCursor position select).lineColumn = s.buffer.lineColumn position := by
  rw [lineColumn, buffer_moveCursor, cursor_moveCursor, Buffer.lineColumn_min]

theorem lineColumn_moveColumn (s : Session) (column : Nat) (select : Bool) :
    (s.moveCursor (s.buffer.positionOf s.lineColumn.1 column) select).lineColumn =
      if s.buffer.keepsEnd s.lineColumn.1 = true ∧ s.buffer.lineLength s.lineColumn.1 ≤ column then
        (s.lineColumn.1 + 1, 0)
      else (s.lineColumn.1, min column (s.buffer.lineLength s.lineColumn.1)) := by
  rw [lineColumn_moveCursor]
  exact s.buffer.lineColumn_positionOf (s.buffer.lineColumn_lt s.cursor) column

theorem lineColumn_moveLineStart (s : Session) (select : Bool) :
    (s.execute (.moveLineStart select)).1.lineColumn = (s.lineColumn.1, 0) := by
  have hmove := s.lineColumn_moveColumn 0 select
  rw [Nat.zero_min] at hmove
  split at hmove
  · next hpast =>
    have hfilled := Buffer.lineLength_pos_of_keepsEnd (s.buffer.lineColumn_lt s.cursor) hpast.1
    exact absurd hpast.2 (Nat.not_le.mpr hfilled)
  · exact hmove

theorem lineColumn_moveLineEnd (s : Session) (select : Bool) :
    (s.execute (.moveLineEnd select)).1.lineColumn =
      if s.buffer.keepsEnd s.lineColumn.1 = true then (s.lineColumn.1 + 1, 0)
      else (s.lineColumn.1, s.buffer.lineLength s.lineColumn.1) := by
  have hmove := s.lineColumn_moveColumn (s.buffer.lineLength s.lineColumn.1) select
  simp only [Nat.le_refl, and_true, Nat.min_self] at hmove
  exact hmove

theorem cursor_moveLineStart_twice (s : Session) (select again : Bool) :
    let moved := (s.execute (.moveLineStart select)).1
    (moved.execute (.moveLineStart again)).1.cursor = moved.cursor := by
  intro moved
  have hline : moved.lineColumn.1 = s.lineColumn.1 := by
    rw [show moved.lineColumn = _ from s.lineColumn_moveLineStart select]
  simp only [execute, cursor_moveCursor, hline]
  rfl

theorem cursor_moveLineEnd_twice (s : Session) (select again : Bool)
    (ends : s.buffer.keepsEnd s.lineColumn.1 = false) :
    let moved := (s.execute (.moveLineEnd select)).1
    (moved.execute (.moveLineEnd again)).1.cursor = moved.cursor := by
  intro moved
  have hline : moved.lineColumn.1 = s.lineColumn.1 := by
    rw [show moved.lineColumn = _ from s.lineColumn_moveLineEnd select, ends]
    rfl
  simp only [execute, cursor_moveCursor, hline]
  rfl

/-- After any actions, and in any text. -/
theorem line_movement_keeps_line (library : Library) (disk : Disk) (options : EditorOptions)
    (actions : List Action) (select again : Bool) :
    let s := (start library disk options).run actions
    let atStart := (s.execute (.moveLineStart select)).1
    let atEnd := (s.execute (.moveLineEnd select)).1
    (atStart.lineColumn = (s.lineColumn.1, 0) ∧
      (atStart.execute (.moveLineStart again)).1.cursor = atStart.cursor) ∧
    (if s.buffer.keepsEnd s.lineColumn.1 = true then atEnd.lineColumn = (s.lineColumn.1 + 1, 0)
      else atEnd.lineColumn = (s.lineColumn.1, s.buffer.lineLength s.lineColumn.1) ∧
        (atEnd.execute (.moveLineEnd again)).1.cursor = atEnd.cursor) ∧
    ∀ (b : Buffer) (line column : Nat), line < b.lineCount →
      b.lineColumn (b.positionOf line column) =
        if b.keepsEnd line = true ∧ b.lineLength line ≤ column then (line + 1, 0)
        else (line, min column (b.lineLength line)) := by
  intro s atStart atEnd
  refine ⟨⟨s.lineColumn_moveLineStart select, s.cursor_moveLineStart_twice select again⟩, ?_, ?_⟩
  · have hend : atEnd.lineColumn = _ := s.lineColumn_moveLineEnd select
    cases hkeeps : s.buffer.keepsEnd s.lineColumn.1 with
    | true => simpa [hkeeps] using hend
    | false =>
      rw [if_neg (by simp)]
      refine ⟨by simpa [hkeeps] using hend, s.cursor_moveLineEnd_twice select again hkeeps⟩
  · exact fun b line column hline => b.lineColumn_positionOf hline column

theorem line_movement_keeps_line_pair :
    let b : Buffer := ⟨['≠', '\r', '\n', 'b']⟩
    0 < b.lineCount ∧ b.lineColumn (b.positionOf 0 9) = (0, 1) := by
  intro b
  have hline : 0 < b.lineCount := by decide
  obtain ⟨-, -, hbuffer⟩ := line_movement_keeps_line default default .standard [] false false
  refine ⟨hline, (hbuffer b 0 9 hline).trans ?_⟩
  decide

/-- A vertical tab ends a line, and the end of that line is in the next one. -/
theorem line_end_leads_to_next_line :
    ¬ ∀ (actions : List Action) (select : Bool),
      let s := (start default default .standard).run actions
      (s.execute (.moveLineEnd select)).1.lineColumn.1 = s.lineColumn.1 := by
  intro h
  have hline := h [.setText ['a', Char.ofNat 0x0B, 'b']] false
  revert hline
  decide

end Session

end CodeEditor
