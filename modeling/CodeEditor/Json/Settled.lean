import CodeEditor.Dictionary
import CodeEditor.Json.Basic
import CodeEditor.Number.Written

/-! # The value of a document

Documents that are written differently can mean the same: members in another order, names that occur
twice, other numerals for a number. A settled document is written in one way only.
-/

namespace CodeEditor.Json

def maxDepth : Nat := 127

/-- The settled form of a document: members by name, the last one of each, and numbers in the
shortest numerals. There is none for a document that is nested deeper than `depth`, has a number that
is too large, or a string without a text. -/
def settled? : (depth : Nat) → Json → Option Json
  | _, .null => some .null
  | _, .bool value => some (.bool value)
  | _, .number value => value.settled?.map .number
  | _, .text value => value.map fun s => .text (some s)
  | 0, .list _ => none
  | 0, .record _ => none
  | depth + 1, .list items => (items.mapM (settled? depth)).map .list
  | depth + 1, .record members => do
    let members ← members.mapM fun (name, value) => do return (← name, ← settled? depth value)
    some (.record ((Dictionary.ofList members).entries.map fun (name, value) => (some name, value)))

end CodeEditor.Json
