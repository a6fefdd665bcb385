import CodeEditor.Number.Single

/-! # Numbers of eight bytes -/

namespace CodeEditor.Number

/-- A finite eight-byte floating-point number: its sign and the encoding of its magnitude. -/
structure Double where
  negative : Bool
  magnitude : Nat
  deriving DecidableEq, Repr, Inhabited

namespace Double

/-- The power of ten nearest to the true one, as a quotient. -/
def powerOfTen (n : Nat) : Nat × Nat :=
  BinaryFormat.double.ratio (BinaryFormat.double.round (Nat.pow 10 n) 1)

/-- The largest power of ten below infinity. -/
def largestPower : Nat := 308

/-- Multiplies a magnitude by the double nearest to a power of ten, or divides it, and rounds. The
exponent is brought into reach by dividing by the largest power first, a round for each. -/
def scaleByTen (rounds : Nat) (magnitude : Nat) (exponent : Int) : Option Nat :=
  let (n, d) := BinaryFormat.double.ratio magnitude
  if exponent.natAbs ≤ largestPower then
    let (pn, pd) := powerOfTen exponent.natAbs
    if exponent ≥ 0 then
      let scaled := BinaryFormat.double.round (n * pn) (d * pd)
      if scaled = BinaryFormat.double.infinity then none else some scaled
    else some (BinaryFormat.double.round (n * pd) (d * pn))
  else if magnitude = 0 then some 0
  else if exponent ≥ 0 then none
  else
    match rounds with
    | 0 => some 0
    | rounds + 1 =>
      let (pn, pd) := powerOfTen largestPower
      scaleByTen rounds (BinaryFormat.double.round (n * pd) (d * pn)) (exponent + largestPower)

/-- `significand * 10 ^ exponent`, the significand being rounded before it is scaled; none when the
result is too large. -/
def ofScientific? (negative : Bool) (significand : Nat) (exponent : Int) : Option Double :=
  (scaleByTen 3 (BinaryFormat.double.round significand 1) exponent).map (⟨negative, ·⟩)

def toSingle (x : Double) : Single :=
  let (n, d) := BinaryFormat.double.ratio x.magnitude
  Single.ofRatio x.negative n d

end Double

end CodeEditor.Number
