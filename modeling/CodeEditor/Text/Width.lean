import CodeEditor.Text.Table.Columns

/-! # Columns taken by a character -/

namespace CodeEditor.Text

/-- How many columns a character takes in a row of fixed-width cells; controls have no width. -/
def columns? (c : Char) : Option Nat :=
  let n := c.toNat
  if n < 0x20 || (0x7F ≤ n && n < 0xA0) then none
  else if n < 0x7F then some 1
  else if Table.noColumn.contains n then some 0
  else if Table.twoColumns.contains n then some 2
  else some 1

/-- How many columns a character takes, controls taking none. -/
def columns (c : Char) : Nat := (columns? c).getD 0

end CodeEditor.Text
