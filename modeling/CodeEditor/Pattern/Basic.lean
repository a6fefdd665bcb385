import CodeEditor.Pattern.CharSet

/-! # Patterns -/

namespace CodeEditor

/-- A condition on the place between two characters. -/
inductive Pattern.Anchor where
  | textStart
  | textEnd
  /-- Only line feeds follow. -/
  | lastLineEnd
  | lineStart
  | lineEnd
  | wordBoundary
  | noWordBoundary
  deriving DecidableEq, Repr

inductive Pattern.Direction where
  | ahead
  | behind
  deriving DecidableEq, Repr

inductive Pattern where
  | empty
  /-- One character of a set. -/
  | set (s : Pattern.CharSet)
  | anchor (a : Pattern.Anchor)
  | seq (first second : Pattern)
  /-- The second is tried where the first leads to no match. -/
  | alt (first second : Pattern)
  /-- Remembers the text that the body matched. -/
  | group (index : Nat) (body : Pattern)
  /-- At least `low` times and at most `high` times, as often as possible or as seldom. -/
  | repeat (low : Nat) (high : Option Nat) (greedy : Bool) (body : Pattern)
  /-- The first way in which the body matches, and no other. -/
  | atomic (body : Pattern)
  /-- The body matches here, or does not if `negated`; its text is not taken. -/
  | look (direction : Pattern.Direction) (negated : Bool) (body : Pattern)
  /-- The text that a group has matched. -/
  | backreference (index : Nat) (ignoreCase : Bool)
  deriving DecidableEq, Repr, Inhabited

namespace Pattern

def sequence : List Pattern → Pattern
  | [] => empty
  | [p] => p
  | p :: ps => seq p (sequence ps)

/-- The first pattern that leads to a match. -/
def choice : List Pattern → Pattern
  | [] => empty
  | [p] => p
  | p :: ps => alt p (choice ps)

/-- Every way to match depends on the place alone, not on how it was reached. -/
def isRegular : Pattern → Bool
  | empty | set _ | anchor _ => true
  | seq a b | alt a b => a.isRegular && b.isRegular
  | group _ body | .repeat _ _ _ body => body.isRegular
  | atomic _ | look .. | backreference .. => false

/-- What may be repeated: not the empty pattern, and no condition on a place. -/
def isRepeatable : Pattern → Bool
  | empty | anchor _ | look .. => false
  | _ => true

/-- The least and the greatest number of characters that a match can take. -/
def widths : Pattern → Nat × Option Nat
  | empty | anchor _ | look .. => (0, some 0)
  | set _ => (1, some 1)
  | seq a b => (a.widths.1 + b.widths.1, do return (← a.widths.2) + (← b.widths.2))
  | alt a b => (min a.widths.1 b.widths.1, do return max (← a.widths.2) (← b.widths.2))
  | group _ body | atomic body => body.widths
  | .repeat low high _ body =>
    (low * body.widths.1, do return (← high) * (← body.widths.2))
  | backreference .. => (0, none)

end Pattern

end CodeEditor
