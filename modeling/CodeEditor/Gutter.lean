import CodeEditor.Buffer
import CodeEditor.Event
import CodeEditor.Text.Width

/-! # The column of line numbers

Lines that are too long for the view are wrapped into fragments, each a row of its own. Only the first
fragment of a line has the number of the line beside it.
-/

namespace CodeEditor

/-- The part of a text that is shown. -/
structure Viewport where
  /-- The position shown in the upper left corner. -/
  first : Nat
  rows : Nat
  /-- The number of columns after which lines are wrapped. Zero, too, stands for no wrapping. -/
  wrap : Option Nat
  deriving DecidableEq, Repr

structure GutterRow where
  index : Nat
  lineNumber : Option Nat
  /-- The position of the first character in the row. -/
  first : Nat
  deriving DecidableEq, Repr

/-- Remembers whether its rows have to be drawn anew. -/
structure Gutter where
  stale : Bool
  deriving DecidableEq, Repr

namespace Gutter

def new : Gutter := ⟨true⟩

instance : Inhabited Gutter := ⟨new⟩

/-! ## Fragments -/

/-- Where a line is wrapped: before each character that no longer fits into the `columns` of its row.
`used` of them are taken by the characters of the row before the one at `index`. -/
def breaks (width : Char → Nat) (columns index used : Nat) : List Char → List Nat
  | [] => []
  | c :: cs =>
    if 0 < used ∧ columns < used + width c then
      index :: breaks width columns (index + 1) (width c) cs
    else breaks width columns (index + 1) (used + width c) cs

def fragmentStarts (width : Char → Nat) (wrap : Option Nat) (line : List Char) : List Nat :=
  match wrap with
  | none => [0]
  | some columns => if columns = 0 then [0] else 0 :: breaks width columns 0 0 line

/-- The fragments that do not end at or before a column, with whether the line starts with them. -/
def fragmentsFrom (column : Nat) (isFirst : Bool) : List Nat → List (Bool × Nat)
  | [] => []
  | [start] => [(isFirst, start)]
  | start :: next :: rest =>
    if next ≤ column then fragmentsFrom column false (next :: rest)
    else (isFirst, start) :: fragmentsFrom column false (next :: rest)

/-- Line number and first position of the fragments of some lines, from a column of the first one
on. `start` is the position of that line. -/
def fragments (width : Char → Nat) (wrap : Option Nat) (number start column : Nat) :
    List (List Char) → List (Option Nat × Nat)
  | [] => []
  | l :: ls =>
    (fragmentsFrom column true (fragmentStarts width wrap (Text.withoutFeed l))).map
        (fun (isFirst, offset) => (if isFirst then some number else none, start + offset)) ++
      fragments width wrap (number + 1) (start + l.length) 0 ls

/-! ## Rows -/

def numbered (index : Nat) : List (Option Nat × Nat) → List GutterRow
  | [] => []
  | (lineNumber, first) :: rest => ⟨index, lineNumber, first⟩ :: numbered (index + 1) rest

/-- The rows for the part of a text that is shown. -/
def rows (width : Char → Nat) (b : Buffer) (v : Viewport) : List GutterRow :=
  let (line, column) := b.lineColumn v.first
  numbered 0 ((fragments width v.wrap (line + 1) (b.lineStart line) column
    (b.lines.drop line)).take v.rows)

/-- The most rows that there can be room for, a row taking 32 bytes. -/
def maxRows : Nat := (Nat.pow 2 63 - 1) / 32

/-- The rows to draw; none when room for so many rows cannot be had. -/
def layout? (_ : Gutter) (b : Buffer) (v : Viewport) : Option (Gutter × List GutterRow) :=
  if maxRows < v.rows then none else some (⟨false⟩, rows Text.columns b v)

/-- Changes of the text, the scroll position or the theme make the rows stale. -/
def observe (g : Gutter) : Event → Gutter
  | .textChanged _ => ⟨true⟩
  | .scrollChanged _ => ⟨true⟩
  | .themeChanged _ => ⟨true⟩
  | _ => g

end Gutter

end CodeEditor
