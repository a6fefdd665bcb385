import CodeEditor.Number.Binary

/-! # Numbers of four bytes -/

namespace CodeEditor.Number

/-- A four-byte floating-point number, held as its encoding. -/
structure Single where
  bits : UInt32
  deriving DecidableEq, Repr, Inhabited

namespace Single

def magnitude (x : Single) : Nat := x.bits.toNat % BinaryFormat.single.signBit

def isNegative (x : Single) : Bool := BinaryFormat.single.signBit ≤ x.bits.toNat

def isNaN (x : Single) : Bool := BinaryFormat.single.infinity < x.magnitude

/-- The two are the same number: both zeros are, and what stands for no number equals nothing. -/
def agrees (x y : Single) : Bool :=
  !x.isNaN && !y.isNaN && (x.bits == y.bits || (x.magnitude == 0 && y.magnitude == 0))

def isPositive (x : Single) : Bool := !x.isNaN && !x.isNegative && x.magnitude != 0

/-- The number nearest to a quotient, with a sign. -/
def ofRatio (negative : Bool) (numerator denominator : Nat) : Single :=
  let magnitude := BinaryFormat.single.round numerator denominator
  ⟨UInt32.ofNat (if negative then magnitude + BinaryFormat.single.signBit else magnitude)⟩

/-- A natural number, exact below 2 ^ 24. -/
def ofNat (n : Nat) : Single := ofRatio false n 1

def zero : Single := ⟨0⟩

def infinity (negative : Bool) : Single :=
  ⟨UInt32.ofNat (BinaryFormat.single.infinity + if negative then BinaryFormat.single.signBit else 0)⟩

/-- Stands for no number. -/
def nan (negative : Bool) : Single :=
  ⟨UInt32.ofNat (BinaryFormat.single.infinity + BinaryFormat.single.fractionSize / 2 +
    if negative then BinaryFormat.single.signBit else 0)⟩

theorem agrees_symm (x y : Single) : x.agrees y = y.agrees x := by
  simp only [agrees, Bool.beq_comm (a := x.bits), Bool.beq_comm (a := x.magnitude)]
  cases x.isNaN <;> cases y.isNaN <;> simp [Bool.and_comm, BEq.comm]

theorem agrees_self {x : Single} (h : x.isNaN = false) : x.agrees x := by
  simp [agrees, h]

end Single

end CodeEditor.Number
