import CodeEditor.Number.Numeral

/-! # JSON documents

A document is held as it is written: members in their order, names that occur twice, numerals with
all their digits. What a reader of one kind of document makes of these is its own affair.
-/

namespace CodeEditor

/-- The text of a string literal. There is none when an escape in it names half of a surrogate
pair. -/
abbrev Json.Literal := Option String

inductive Json where
  | null
  | bool (value : Bool)
  | number (value : Number.Numeral)
  | text (value : Json.Literal)
  | list (items : List Json)
  | record (members : List (Json.Literal × Json))
  deriving Repr, Inhabited

end CodeEditor
