import CodeEditor.Attributes
import CodeEditor.Span

/-! # Runs of attributes

A list of runs gives attributes to the bytes of a text, from its first byte on.
-/

namespace CodeEditor

/-- So many bytes with the same attributes. -/
structure Run where
  length : Nat
  attributes : Attributes
  deriving DecidableEq, Repr

namespace Run

def total : List Run → Nat
  | [] => 0
  | r :: rs => r.length + total rs

/-- A run of this length, none when there is nothing to cover. -/
def covering (length : Nat) (attributes : Attributes) : List Run :=
  if length = 0 then [] else [⟨length, attributes⟩]

/-- The runs over the first `position` bytes and those over the rest; a run that the cut goes through is
divided. -/
def splitAt : Nat → List Run → List Run × List Run
  | _, [] => ([], [])
  | position, r :: rs =>
    if position = 0 then ([], r :: rs)
    else if position < r.length then
      ([⟨position, r.attributes⟩], ⟨r.length - position, r.attributes⟩ :: rs)
    else
      let (before, after) := splitAt (position - r.length) rs
      (r :: before, after)

def update (runs : List Run) (s : Span) (change : Attributes → Attributes) : List Run :=
  let (before, rest) := splitAt s.start runs
  let (inside, after) := splitAt (s.stop - s.start) rest
  before ++ inside.map (fun r => { r with attributes := change r.attributes }) ++ after

/-- Puts new runs in place of those over a span. -/
def replace (runs : List Run) (s : Span) (inserted : List Run) : List Run :=
  let (before, rest) := splitAt s.start runs
  before ++ inserted ++ (splitAt (s.stop - s.start) rest).2

/-- Joins neighbours that look the same; the first gives its attributes. -/
def merge : List Run → List Run
  | [] => []
  | r :: rs =>
    match merge rs with
    | [] => [r]
    | next :: rest =>
      if r.attributes.agrees next.attributes then ⟨r.length + next.length, r.attributes⟩ :: rest
      else r :: next :: rest

/-- The two cover the same stretches with attributes that look the same. -/
def sameRuns : List Run → List Run → Bool
  | [], [] => true
  | a :: as, b :: bs => a.length == b.length && a.attributes.agrees b.attributes && sameRuns as bs
  | _, _ => false

/-- The attributes of a byte, if the runs reach that far. -/
def attributesAt? : List Run → Nat → Option Attributes
  | [], _ => none
  | r :: rs, byte => if byte < r.length then some r.attributes else attributesAt? rs (byte - r.length)

/-- The runs with the spans they cover, the first starting at `position`. -/
def located (position : Nat) : List Run → List (Span × Attributes)
  | [] => []
  | r :: rs =>
    (⟨position, position + r.length⟩, r.attributes) :: located (position + r.length) rs

theorem total_append (a b : List Run) : total (a ++ b) = total a + total b := by
  induction a with
  | nil => simp [total]
  | cons r rs ih => simp [total, ih]; omega

theorem total_splitAt (position : Nat) (runs : List Run) :
    total (splitAt position runs).1 + total (splitAt position runs).2 = total runs := by
  induction runs generalizing position with
  | nil => simp [splitAt, total]
  | cons r rs ih =>
    simp only [splitAt]
    split
    · simp [total]
    · split
      · simp [total]; omega
      · have := ih (position - r.length)
        simp only [total] at *
        omega

end Run

end CodeEditor
