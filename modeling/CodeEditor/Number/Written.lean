import CodeEditor.Number.Shortest

/-! # Writing numerals -/

namespace CodeEditor.Number

def digitChar (digit : Nat) : Char := Char.ofNat ('0'.toNat + digit)

namespace Numeral

/-- At least two digits of an exponent, after its sign. -/
def exponentText (exponent : Int) : List Char :=
  let digits := Decimal.digitsOf exponent.natAbs
  (if exponent < 0 then '-' else '+') ::
    ((if digits.length < 2 then 0 :: digits else digits).map digitChar)

def text (n : Numeral) : List Char :=
  (if n.negative then ['-'] else []) ++ n.whole.map digitChar ++
    (if n.fraction.isEmpty then [] else '.' :: n.fraction.map digitChar) ++
    (match n.exponent with
      | none => []
      | some exponent => 'e' :: exponentText exponent)

def ofNat (n : Nat) : Numeral := ⟨false, Decimal.digitsOf n, [], none⟩

/-- The exponents of the first digit for which all places are written out. -/
def isWrittenOut (exponent : Int) : Bool := -5 ≤ exponent && exponent ≤ 15

/-- A decimal as it is written: with all its places and at least one after the point, or with an
exponent when there would be too many places. -/
def ofDecimal (negative : Bool) (d : Decimal) : Numeral :=
  if isWrittenOut d.exponent then
    if d.exponent < 0 then
      ⟨negative, [0], List.replicate (-d.exponent - 1).toNat 0 ++ d.digits, none⟩
    else
      let places := d.exponent.toNat + 1
      let padded := d.digits ++ List.replicate (places + 1 - d.digits.length) 0
      ⟨negative, padded.take places, padded.drop places, none⟩
  else ⟨negative, d.digits.take 1, d.digits.drop 1, some d.exponent⟩

/-- The shortest numeral that reads back as a number. -/
def ofDouble (x : Double) : Numeral :=
  ofDecimal x.negative (Decimal.shortest .double x.magnitude)

/-- The numeral of the number that is read from one. Whole numbers of eight bytes stay as they are,
all others are rounded; there is none when the number is too large. -/
def settled? (n : Numeral) : Option Numeral :=
  let value := ofDigits n.whole
  let fits := if n.negative then 0 < value && value ≤ Nat.pow 2 63 else value < Nat.pow 2 64
  if n.isInteger && fits then some n else n.toDouble?.map ofDouble

end Numeral

end CodeEditor.Number
