/-! # Binary floating-point formats

A number of such a format is held as its encoding: sign, exponent and fraction packed into one
natural number. Rounding is to the nearest number, a half going to the even one.
-/

namespace CodeEditor.Number

structure BinaryFormat where
  /-- Bits of the significand, with the leading one that is not stored. -/
  precision : Nat
  exponentBits : Nat
  /-- The finest step between two numbers is two to this power, negated. -/
  finest : Nat
  deriving DecidableEq, Repr

namespace BinaryFormat

/-- Four bytes: eight bits of exponent. -/
def single : BinaryFormat := ⟨24, 8, 149⟩

/-- Eight bytes: eleven bits of exponent. -/
def double : BinaryFormat := ⟨53, 11, 1074⟩

/-- The stored part of the significand. -/
def fractionSize (f : BinaryFormat) : Nat := Nat.pow 2 (f.precision - 1)

/-- The encoding of infinity; larger ones stand for no number. -/
def infinity (f : BinaryFormat) : Nat := (Nat.pow 2 f.exponentBits - 1) * f.fractionSize

/-- The encoding of zero with a minus sign, which is the weight of the sign. -/
def signBit (f : BinaryFormat) : Nat := Nat.pow 2 f.exponentBits * f.fractionSize

/-- `numerator / denominator` divided by two to the power `exponent`. -/
def scaled (numerator denominator : Nat) (exponent : Int) : Nat × Nat :=
  if exponent ≥ 0 then (numerator, denominator * Nat.pow 2 exponent.toNat)
  else (numerator * Nat.pow 2 (-exponent).toNat, denominator)

/-- The natural number nearest to a quotient, a half going to the even one. -/
def nearest (numerator denominator : Nat) : Nat :=
  let q := numerator / denominator
  let r := numerator % denominator
  if 2 * r < denominator then q
  else if 2 * r > denominator then q + 1
  else q + q % 2

/-- The exponent of the step between numbers of the size of a quotient. -/
def stepExponent (f : BinaryFormat) (numerator denominator : Nat) : Int :=
  let guess : Int := (numerator.log2 : Int) - (denominator.log2 : Int) - (f.precision : Int)
  let (n, d) := scaled numerator denominator guess
  let exponent := if n / d < Nat.pow 2 f.precision then guess else guess + 1
  max exponent (-(f.finest : Int))

/-- The encoding of the number nearest to a quotient, infinity when it is too large. -/
def round (f : BinaryFormat) (numerator denominator : Nat) : Nat :=
  if numerator = 0 then 0
  else
    let exponent := f.stepExponent numerator denominator
    let (n, d) := scaled numerator denominator exponent
    min ((exponent + (f.finest : Int)).toNat * f.fractionSize + nearest n d) f.infinity

/-- A finite magnitude as significand and power of two. -/
def parts (f : BinaryFormat) (encoding : Nat) : Nat × Int :=
  let biased := encoding / f.fractionSize
  let fraction := encoding % f.fractionSize
  if biased = 0 then (fraction, -(f.finest : Int))
  else (fraction + f.fractionSize, (biased : Int) - 1 - (f.finest : Int))

/-- A finite magnitude as a quotient. -/
def ratio (f : BinaryFormat) (encoding : Nat) : Nat × Nat :=
  let (significand, exponent) := f.parts encoding
  scaled significand 1 (-exponent)

end BinaryFormat

end CodeEditor.Number
