import CodeEditor.Machine
import CodeEditor.Proofs.Boundary
import CodeEditor.Proofs.Lines
import Mathlib.Algebra.GroupWithZero.Nat

/-! # Access to the text within its bounds

The operations of the buffer once more, by accesses that answer only for positions and lines that are
there, and by sums and differences that answer only for numbers of 64 bits. They always answer, and what
the buffer says.
-/

namespace CodeEditor

open Machine

/-- A text is short when its length is a signed number of 64 bits. -/
def Text.Short (text : List Char) : Prop := Text.byteLength text < 2 ^ 63

theorem Text.length_le_byteLength (text : List Char) : text.length ≤ Text.byteLength text := by
  induction text with
  | nil => simp
  | cons c cs ih =>
    have := c.utf8Size_pos
    simp only [List.length_cons, Text.byteLength_cons]
    omega

theorem Text.Short.length_lt {text : List Char} (h : Text.Short text) : text.length < 2 ^ 63 :=
  lt_of_le_of_lt (Text.length_le_byteLength text) h

namespace Buffer

/-! ## Accesses -/

def byteAt? (b : Buffer) (position : Nat) : Option Nat :=
  if position ≤ b.length then some (b.byteOffset position) else none

def lineAt? (b : Buffer) (position : Nat) : Option Nat :=
  if position ≤ b.length then some (locate b.lines position).1 else none

def startOf? (b : Buffer) (line : Nat) : Option Nat :=
  if line ≤ b.lineCount then some (b.lineStart line) else none

def line? (b : Buffer) (line : Nat) : Option (List Char) := b.lines[line]?

def piece? (b : Buffer) (s : Span) : Option (List Char) :=
  if s.start ≤ s.stop ∧ s.stop ≤ b.length then some (b.slice s) else none

def remove? (b : Buffer) (s : Span) : Option Buffer :=
  if s.start ≤ s.stop ∧ s.stop ≤ b.length then some ⟨b.text.take s.start ++ b.text.drop s.stop⟩
  else none

def insert? (b : Buffer) (position : Nat) (text : List Char) : Option Buffer :=
  if position ≤ b.length then some ⟨b.text.take position ++ text ++ b.text.drop position⟩ else none

/-! ## Operations by accesses -/

def byteOffset? (b : Buffer) (position : Nat) : Option Nat := b.byteAt? (min position b.length)

/-- The length of a line without what feeds it, found from its last two characters. -/
def shownLength? (text : List Char) : Option Nat :=
  if text.length = 0 then some 0
  else do
    let length ← sub? text.length 1
    let last ← text[length]?
    if last = '\n' then
      if length = 0 then some length
      else do
        let shorter ← sub? length 1
        let before ← text[shorter]?
        some (if before = '\r' then shorter else length)
    else some (if last = '\r' then length else text.length)

def lineLength? (b : Buffer) (line : Nat) : Option Nat :=
  if b.lineCount ≤ line then some 0 else (b.line? line).bind shownLength?

def lineText? (b : Buffer) (line : Nat) : Option (List Char) :=
  if b.lineCount ≤ line then some []
  else do
    let length ← b.lineLength? line
    let text ← b.line? line
    if length ≤ text.length then some (text.take length) else none

def lineColumn? (b : Buffer) (position : Nat) : Option (Nat × Nat) := do
  let position := min position b.length
  let line ← b.lineAt? position
  let start ← b.startOf? line
  let length ← b.lineLength? line
  some (line, min (position - start) length)

def positionOf? (b : Buffer) (line column : Nat) : Option Nat :=
  if b.lineCount ≤ line then some b.length
  else do
    let start ← b.startOf? line
    let length ← b.lineLength? line
    add? start (min column length)

def slice? (b : Buffer) (s : Span) : Option (List Char) :=
  let s : Span := ⟨min s.start b.length, min s.stop b.length⟩
  if s.stop ≤ s.start then some [] else b.piece? s

/-- Nothing is removed for an empty span, and nothing inserted for an empty text. -/
def replace? (b : Buffer) (s : Span) (text : List Char) : Option Buffer :=
  let s := s.clamp b.length
  let removed := if s.start < s.stop then b.remove? s else some b
  removed.bind fun b => if text.isEmpty then some b else b.insert? s.start text

/-! ## Lines -/

theorem locate_eq (b : Buffer) (position : Nat) :
    (locate b.lines position).1 < b.lineCount ∧
      (locate b.lines position).2 = position - b.lineStart (locate b.lines position).1 := by
  obtain ⟨before, l, after, column, hlines, rfl, hcolumn⟩ :=
    exists_line (Text.lines_ne_nil b.text) position
  have hlines : b.lines = before ++ l :: after := hlines
  have hlocate : locate b.lines (before.flatten.length + column) = (before.length, column) := by
    rw [hlines, locate_append hcolumn]
  rw [hlocate, lineStart_eq hlines, lineCount, hlines]
  constructor
  · simp
  · omega

theorem line?_eq {b : Buffer} {line : Nat} (h : line < b.lineCount) :
    b.line? line = some ((b.lines[line]?).getD []) := by
  have hline : line < b.lines.length := h
  simp [line?, hline]

theorem lineStart_add_length_le {b : Buffer} {line : Nat} {text : List Char}
    (h : b.line? line = some text) : b.lineStart line + text.length ≤ b.length := by
  obtain ⟨hline, rfl⟩ := List.getElem?_eq_some_iff.mp h
  obtain ⟨before, l, after, hlines, rfl⟩ := exists_lines_of_lt hline
  have htotal := length_eq_of_lines hlines
  rw [lineStart_eq hlines, htotal]
  simp [hlines]

theorem shownLength?_eq (line : List Char) :
    shownLength? line = some (Text.withoutFeed line).length := by
  rw [Text.length_withoutFeed]
  rcases List.eq_nil_or_concat line with rfl | ⟨init, c, rfl⟩
  · rfl
  · rcases List.eq_nil_or_concat init with rfl | ⟨init, d, rfl⟩
    · rw [List.concat_nil, Text.feedLength_singleton]
      by_cases hc : c = '\n'
      · simp [shownLength?, sub?, hc]
      · by_cases hr : c = '\r' <;> simp [shownLength?, sub?, hc, hr]
    · simp only [List.concat_eq_append, List.append_assoc, List.singleton_append]
      rw [Text.feedLength_concat]
      by_cases hc : c = '\n'
      · by_cases hd : d = '\r' <;> simp [shownLength?, sub?, hc, hd]
      · by_cases hr : c = '\r' <;> simp [shownLength?, sub?, hc, hr]

theorem lineText_of_past {b : Buffer} {line : Nat} (h : b.lineCount ≤ line) : b.lineText line = [] := by
  have hnone : b.lines[line]? = none := List.getElem?_eq_none h
  simp [lineText, hnone, Text.withoutFeed]

theorem lineLength_le_line (b : Buffer) (line : Nat) :
    b.lineLength line ≤ ((b.lines[line]?).getD []).length := by
  simp [lineLength, lineText, Text.withoutFeed]

theorem lineLength?_eq (b : Buffer) (line : Nat) : b.lineLength? line = some (b.lineLength line) := by
  unfold lineLength?
  split
  · next hpast => rw [lineLength, lineText_of_past hpast, List.length_nil]
  · next hthere =>
    rw [line?_eq (by omega)]
    exact shownLength?_eq _

theorem lineText?_eq (b : Buffer) (line : Nat) : b.lineText? line = some (b.lineText line) := by
  unfold lineText?
  split
  · next hpast => rw [lineText_of_past hpast]
  · next hthere =>
    have hshown := b.lineLength_le_line line
    have htake : ((b.lines[line]?).getD []).take (b.lineLength line) = b.lineText line := by
      simp [lineLength, lineText, Text.withoutFeed]
    rw [lineLength?_eq, line?_eq (by omega)]
    simp only [Option.bind_eq_bind, Option.bind_some, hshown, if_true, htake]

theorem lineColumn?_eq (b : Buffer) (position : Nat) :
    b.lineColumn? position = some (b.lineColumn position) := by
  obtain ⟨hline, hcolumn⟩ := locate_eq b (min position b.length)
  have hstart : b.startOf? (locate b.lines (min position b.length)).1 =
      some (b.lineStart (locate b.lines (min position b.length)).1) := if_pos hline.le
  have hlocate : b.lineAt? (min position b.length) =
      some (locate b.lines (min position b.length)).1 := if_pos (min_le_right _ _)
  simp only [lineColumn?, hlocate, hstart, lineLength?_eq, Option.bind_eq_bind, Option.bind_some,
    lineColumn, ← hcolumn]

theorem positionOf?_eq {b : Buffer} (short : Text.Short b.text) (line column : Nat) :
    b.positionOf? line column = some (b.positionOf line column) := by
  unfold positionOf? positionOf
  split
  · rfl
  · next hthere =>
    have hline : line < b.lineCount := by omega
    have hend := lineStart_add_length_le (line?_eq hline)
    have hshown := b.lineLength_le_line line
    have hlength : b.length < 2 ^ 63 := short.length_lt
    have hstart : b.startOf? line = some (b.lineStart line) := if_pos hline.le
    rw [hstart, lineLength?_eq]
    exact add?_eq (by omega)

theorem positionOf_lineLength (b : Buffer) (line : Nat) {column : Nat}
    (h : b.lineLength line ≤ column) :
    b.positionOf line column = b.positionOf line (b.lineLength line) := by
  unfold positionOf
  rw [min_eq_right h, min_self]

theorem lineLength_le (b : Buffer) (line : Nat) : b.lineLength line ≤ b.length := by
  rcases Nat.lt_or_ge line b.lineCount with hline | hline
  · have hend := lineStart_add_length_le (line?_eq hline)
    have hshown := b.lineLength_le_line line
    omega
  · rw [lineLength, lineText_of_past hline]
    exact Nat.zero_le _

/-! ## Positions -/

theorem byteOffset?_eq (b : Buffer) (position : Nat) :
    b.byteOffset? position = some (b.byteOffset position) := by
  have hcut : b.byteOffset (min position b.length) = b.byteOffset position := by
    simp only [byteOffset, Text.byteOffset, length]
    rw [List.take_eq_take_iff.mpr]
    omega
  rw [byteOffset?, byteAt?, if_pos (min_le_right _ _), hcut]

theorem slice?_eq (b : Buffer) (s : Span) : b.slice? s = some (b.slice s) := by
  have hstop : b.text.take (min s.stop b.length) = b.text.take s.stop := by
    rw [List.take_eq_take_iff, length]
    omega
  unfold slice?
  simp only
  split
  · next hempty =>
    have hnone : b.slice s = [] := by
      rw [slice, ← hstop, List.drop_eq_nil_iff, List.length_take]
      simp only [length] at hempty ⊢
      omega
    rw [hnone]
  · next hfull =>
    simp only [not_le] at hfull
    have hstart : min s.start b.length = s.start := by omega
    rw [piece?, if_pos ⟨hfull.le, min_le_right _ _⟩]
    simp only [slice, hstop, hstart]

theorem replace?_eq (b : Buffer) (s : Span) (text : List Char) :
    b.replace? s text = some (b.replace s text) := by
  have ordered := Span.clamp_ordered s b.length
  have inside := Span.clamp_stop_le s b.length
  have hstart := Span.clamp_start_le s b.length
  have hremove : (if (s.clamp b.length).start < (s.clamp b.length).stop then b.remove? (s.clamp b.length)
      else some b) =
      some ⟨b.text.take (s.clamp b.length).start ++ b.text.drop (s.clamp b.length).stop⟩ := by
    split
    · exact if_pos ⟨ordered, inside⟩
    · have hsame : (s.clamp b.length).stop = (s.clamp b.length).start := by omega
      rw [hsame, List.take_append_drop]
  simp only [replace?, hremove, Option.bind_some]
  cases text with
  | nil => simp [replace]
  | cons c cs =>
    have htake : (b.text.take (s.clamp b.length).start).length = (s.clamp b.length).start := by
      simpa [length] using hstart
    rw [List.isEmpty_cons, if_neg Bool.false_ne_true, insert?, if_pos]
    · simp only [replace, List.take_left' htake, List.drop_left' htake]
    · simp only [length, List.length_append] at htake ⊢
      omega

end Buffer

end CodeEditor
