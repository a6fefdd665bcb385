import CodeEditor.Span

/-! # Cursor and selection -/

namespace CodeEditor

/-- The cursor, and where the selection that it ends was begun. -/
structure Selection where
  cursor : Nat
  anchor : Option Nat
  deriving DecidableEq, Repr

namespace Selection

/-- At the start of the text, with nothing selected. -/
def start : Selection := ⟨0, none⟩

instance : Inhabited Selection := ⟨start⟩

/-- The cursor at a position of a text of this length, with nothing selected. -/
def place (position length : Nat) : Selection := ⟨min position length, none⟩

/-- Moves the cursor. It takes the selection along when `select` is set, and drops it when not. -/
def move (s : Selection) (position length : Nat) (select : Bool) : Selection :=
  ⟨min position length, if select then some (s.anchor.getD s.cursor) else none⟩

/-- Selects a span, with the cursor at its end. -/
def «over» (s : Span) (length : Nat) : Selection :=
  let s := s.clamp length
  ⟨s.stop, some s.start⟩

def all (length : Nat) : Selection := «over» ⟨0, length⟩ length

/-- What is selected, if that is not empty. -/
def span? (s : Selection) : Option Span :=
  match s.anchor with
  | none => none
  | some anchor =>
    if anchor < s.cursor then some ⟨anchor, s.cursor⟩
    else if s.cursor < anchor then some ⟨s.cursor, anchor⟩
    else none

/-- What an edit replaces: the selection, or nothing at the cursor. -/
def editSpan (s : Selection) : Span := s.span?.getD (.point s.cursor)

theorem start_lt_stop {s : Selection} {selected : Span} (h : s.span? = some selected) :
    selected.start < selected.stop := by
  simp only [span?] at h
  split at h
  · simp at h
  · split at h
    · next h' => cases h; exact h'
    · split at h
      · next h' => cases h; exact h'
      · simp at h

end Selection

end CodeEditor
