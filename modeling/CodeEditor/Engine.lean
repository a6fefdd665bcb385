import CodeEditor.Text.Boundary

/-! # Engines for regular expressions

What highlighting asks of an engine: it reads expressions, and it finds the matches of one in a text, which
divide no character.
-/

namespace CodeEditor

class Engine where
  Pattern : Type
  /-- Why an expression is no pattern. -/
  Rejection : Type
  parse : List Char → Except Rejection Pattern
  /-- The spans of bytes that a pattern matches in a text, from left to right; empty matches are left
  out. -/
  matchesIn : Pattern → List Char → List Span
  whole : ∀ p text, ∀ s ∈ matchesIn p text, Text.IsWhole text s
  [decidableEqPattern : DecidableEq Pattern]
  [decidableEqRejection : DecidableEq Rejection]

attribute [reducible, instance] Engine.decidableEqPattern Engine.decidableEqRejection

end CodeEditor
