/-! # Physical lines of a text -/

namespace CodeEditor.Text

/-- The characters that can end a line: line feed, vertical tab, form feed, carriage return, next
line, line separator and paragraph separator. -/
def isLineEnd (c : Char) : Bool :=
  let n := c.toNat
  (0x0A ≤ n && n ≤ 0x0D) || n == 0x85 || n == 0x2028 || n == 0x2029

/-- A line ends after `c` when `next` follows it; a carriage return before a line feed leaves that
to the line feed. -/
def breaksAfter (c : Char) (next : Option Char) : Bool :=
  isLineEnd c && !(c == '\r' && next == some '\n')

/-- The lines of a text, each with the characters that end it. The last one has none, and is empty
when the text is empty or ends a line. -/
def lines : List Char → List (List Char)
  | [] => [[]]
  | c :: cs =>
    if breaksAfter c cs.head? then [c] :: lines cs
    else
      match lines cs with
      | [] => [[c]]
      | l :: ls => (c :: l) :: ls

theorem lines_ne_nil (text : List Char) : lines text ≠ [] := by
  cases text with
  | nil => simp [lines]
  | cons c cs =>
    simp only [lines]
    split
    · simp
    · split <;> simp

theorem flatten_lines (text : List Char) : (lines text).flatten = text := by
  induction text with
  | nil => rfl
  | cons c cs ih =>
    simp only [lines]
    split
    · simp [ih]
    · split
      · next h => exact absurd h (lines_ne_nil cs)
      · next l ls h => rw [h] at ih; simpa using ih

/-- How many characters the feed or return at the end of a line takes, two for a pair. The other
characters that end lines count as part of the line. -/
def feedLength (line : List Char) : Nat :=
  match line.reverse with
  | '\n' :: '\r' :: _ => 2
  | '\n' :: _ => 1
  | '\r' :: _ => 1
  | _ => 0

/-- The line without the feed or return at its end. -/
def withoutFeed (line : List Char) : List Char := line.take (line.length - feedLength line)

end CodeEditor.Text
