import CodeEditor.Text.Offset
import CodeEditor.Text.Lines

/-! # The text being edited, by characters and by lines

Positions are character indices. Any number is taken for one: what lies past the end stands for the
end.
-/

namespace CodeEditor

structure Buffer where
  text : List Char
  deriving DecidableEq, Repr, Inhabited

namespace Buffer

def length (b : Buffer) : Nat := b.text.length

def lines (b : Buffer) : List (List Char) := Text.lines b.text

/-- An empty text has one line. -/
def lineCount (b : Buffer) : Nat := b.lines.length

def byteOffset (b : Buffer) (position : Nat) : Nat := Text.byteOffset b.text position

/-- Where a line starts, or the end when there is no such line. -/
def lineStart (b : Buffer) (line : Nat) : Nat := (b.lines.take line).flatten.length

/-- The line that `position` lies in, and how far from its start. The last line also has the
position after its last character. -/
def locate : List (List Char) → Nat → Nat × Nat
  | [], position => (0, position)
  | [_], position => (0, position)
  | l :: ls, position =>
    if position < l.length then (0, position)
    else
      let (line, column) := locate ls (position - l.length)
      (line + 1, column)

/-- A line without the feed or return at its end; empty when there is no such line. -/
def lineText (b : Buffer) (line : Nat) : List Char := Text.withoutFeed ((b.lines[line]?).getD [])

/-- The length of a line without the feed or return at its end. -/
def lineLength (b : Buffer) (line : Nat) : Nat := (b.lineText line).length

/-- Line and column of a position. A position between a return and its feed has the column of the
return. -/
def lineColumn (b : Buffer) (position : Nat) : Nat × Nat :=
  let (line, column) := locate b.lines (min position b.length)
  (line, min column (b.lineLength line))

/-- The position of a line and column; a column past the end of its line stands for that end. -/
def positionOf (b : Buffer) (line column : Nat) : Nat :=
  if b.lineCount ≤ line then b.length else b.lineStart line + min column (b.lineLength line)

/-- The text of a span; nothing when the span is reversed. -/
def slice (b : Buffer) (s : Span) : List Char :=
  (b.text.take s.stop).drop s.start

def replace (b : Buffer) (s : Span) (text : List Char) : Buffer :=
  let s := s.clamp b.length
  ⟨b.text.take s.start ++ text ++ b.text.drop s.stop⟩

theorem length_replace (b : Buffer) (s : Span) (text : List Char) :
    (b.replace s text).length + (s.clamp b.length).size = b.length + text.length := by
  have h1 := Span.clamp_ordered s b.length
  have h2 := Span.clamp_stop_le s b.length
  simp only [replace, length, List.length_append, List.length_take, List.length_drop, Span.size]
    at *
  omega

end Buffer

end CodeEditor
