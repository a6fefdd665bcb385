/-! # Sets of code points given by ranges -/

namespace CodeEditor.Text

/-- Code points from first to last, one pair for each unbroken stretch, in ascending order. -/
structure Ranges where
  bounds : Array (Nat × Nat)

/-- A code point is in the set when one of the stretches holds it. -/
def Ranges.contains (r : Ranges) (code : Nat) : Bool :=
  (r.bounds.binSearch (code, code) (fun a b => a.2 < b.1)).isSome

end CodeEditor.Text
