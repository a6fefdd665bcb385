import CodeEditor.Number.Numeral

/-! # The shortest decimal that reads back

Of the decimals that round to a given number, those with the fewest digits are considered, and of
these the nearest is taken; of two that are equally near, the one with an even last digit.
-/

namespace CodeEditor.Number

/-- Digits, the first one before the point, times a power of ten. -/
structure Decimal where
  digits : List Nat
  exponent : Int
  deriving DecidableEq, Repr

namespace Decimal

def digitsOf (n : Nat) : List Nat := (Nat.toDigits 10 n).map digitValue

/-- The power of ten of the first digit of a quotient. -/
def leadingExponent (numerator denominator : Nat) : Int :=
  if denominator ≤ numerator then ((digitsOf (numerator / denominator)).length : Int) - 1
  else -((digitsOf ((denominator - 1) / numerator)).length : Int)

/-- The quotient `numerator / denominator` divided by ten to the power `exponent`. -/
def scaled (numerator denominator : Nat) (exponent : Int) : Nat × Nat :=
  if exponent ≥ 0 then (numerator, denominator * Nat.pow 10 exponent.toNat)
  else (numerator * Nat.pow 10 (-exponent).toNat, denominator)

/-- The quotients between which everything rounds to a magnitude of the format. -/
def bounds (f : BinaryFormat) (magnitude : Nat) : (Nat × Nat) × (Nat × Nat) :=
  let (significand, exponent) := f.parts magnitude
  let isLowest := significand = f.fractionSize && f.fractionSize < magnitude
  let lower := if isLowest then 4 * significand - 1 else 4 * significand - 2
  (BinaryFormat.scaled lower 4 (-exponent), BinaryFormat.scaled (4 * significand + 2) 4 (-exponent))

/-- `candidate` times ten to the power `exponent` rounds to the magnitude. -/
def roundsTo (f : BinaryFormat) (magnitude candidate : Nat) (exponent : Int) : Bool :=
  let ((ln, ld), (un, ud)) := bounds f magnitude
  let (ln, ld) := scaled ln ld exponent
  let (un, ud) := scaled un ud exponent
  if magnitude % 2 = 0 then ln ≤ candidate * ld && candidate * ud ≤ un
  else ln < candidate * ld && candidate * ud < un

/-- The multiple of ten to the power `exponent` that rounds to the magnitude, given by its factor. -/
def onGrid? (f : BinaryFormat) (magnitude : Nat) (exponent : Int) : Option Nat :=
  let (n, d) := f.ratio magnitude
  let (n, d) := scaled n d exponent
  let low := n / d
  match roundsTo f magnitude low exponent, roundsTo f magnitude (low + 1) exponent with
  | true, true => some (BinaryFormat.nearest n d)
  | true, false => some low
  | false, true => some (low + 1)
  | false, false => none

/-- Tries one more digit after the other. -/
def search (f : BinaryFormat) (magnitude : Nat) (leading : Int) : (size : Nat) → Decimal
  | 0 => ⟨[0], 0⟩
  | more + 1 =>
    let exponent := leading - ((17 - more : Nat) : Int) + 1
    match onGrid? f magnitude exponent with
    | some factor =>
      let digits := digitsOf factor
      ⟨(digits.reverse.dropWhile (· = 0)).reverse, exponent + (digits.length : Int) - 1⟩
    | none => search f magnitude leading more

/-- The shortest decimal for a magnitude; zero has the digit zero. -/
def shortest (f : BinaryFormat) (magnitude : Nat) : Decimal :=
  if magnitude = 0 then ⟨[0], 0⟩
  else
    let (n, d) := f.ratio magnitude
    search f magnitude (leadingExponent n d) 17

end Decimal

end CodeEditor.Number
