/-! # Two characters typed for one -/

namespace CodeEditor

/-- The character that stands for two typed ones. -/
structure Substitution where
  typed : List Char
  glyph : Char
  deriving DecidableEq, Repr

namespace Substitution

/-- The operators that have a character of their own. -/
def all : List Substitution :=
  [⟨['!', '='], '≠'⟩, ⟨['<', '>'], '≠'⟩, ⟨['>', '='], '≥'⟩, ⟨['<', '='], '≤'⟩, ⟨['=', '>'], '▶'⟩]

/-- How many characters before the cursor are looked at. -/
def reach : Nat := 3

/-- How many characters the glyph takes the place of. -/
def size (s : Substitution) : Nat := s.typed.length

/-- The first substitution whose typed characters end the text. -/
def find? (preceding : List Char) : Option Substitution :=
  all.find? fun s => s.typed.isSuffixOf preceding

end Substitution

end CodeEditor
