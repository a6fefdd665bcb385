/-! # Maps of code points given by shifts -/

namespace CodeEditor.Text

/-- Every `step`-th code point from `first` to `last` maps to the one `offset` further on. -/
structure Shift where
  first : Nat
  last : Nat
  step : Nat
  offset : Int

def Shift.holds (s : Shift) (code : Nat) : Bool :=
  s.first ≤ code && code ≤ s.last && (code - s.first) % s.step == 0

structure Shifts where
  entries : Array Shift

/-- The code point that `code` maps to; one that no shift holds stays. -/
def Shifts.apply (m : Shifts) (code : Nat) : Nat :=
  match m.entries.binSearch ⟨code, code, 1, 0⟩ (fun a b => a.last < b.first) with
  | some s => if s.holds code then ((code : Int) + s.offset).toNat else code
  | none => code

/-- The code points that a shift takes to `code`. -/
def Shifts.sources (m : Shifts) (code : Nat) : List Nat :=
  m.entries.toList.filterMap fun s =>
    let source := ((code : Int) - s.offset).toNat
    if s.holds source && (source : Int) + s.offset == (code : Int) then some source else none

end CodeEditor.Text
