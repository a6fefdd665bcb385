import CodeEditor.Number.Double
import CodeEditor.Text.Class

/-! # Numbers as they are written -/

namespace CodeEditor.Number

def digitValue (c : Char) : Nat := c.toNat - '0'.toNat

def ofDigits (digits : List Nat) : Nat := digits.foldl (fun n d => n * 10 + d) 0

/-- A decimal number as written: its digits before and after the point, and its exponent. -/
structure Numeral where
  negative : Bool
  whole : List Nat
  fraction : List Nat
  exponent : Option Int
  deriving DecidableEq, Repr, Inhabited

namespace Numeral

/-- The digits at the front of a text. -/
def digits (text : List Char) : List Nat := (text.takeWhile Text.isAsciiDigit).map digitValue

/-- What follows the digits at the front of a text. -/
def afterDigits (text : List Char) : List Char := text.dropWhile Text.isAsciiDigit

/-- An exponent after its letter: a sign, which may be missing, and at least one digit. -/
def readExponent? (text : List Char) : Option Int :=
  let (negative, text) :=
    match text with
    | '-' :: rest => (true, rest)
    | '+' :: rest => (false, rest)
    | rest => (false, rest)
  let value := ofDigits (digits text)
  if text.isEmpty || !(afterDigits text).isEmpty then none
  else some (if negative then -(value : Int) else value)

/-- What stands after the whole part: a fraction with at least one digit, and an exponent, either
of which may be missing. -/
def readTail? (negative : Bool) (whole : List Nat) (text : List Char) : Option Numeral :=
  let exponentOf (fraction : List Nat) : List Char → Option Numeral
    | [] => some ⟨negative, whole, fraction, none⟩
    | c :: rest =>
      if c == 'e' || c == 'E' then
        (readExponent? rest).map fun e => ⟨negative, whole, fraction, some e⟩
      else none
  match text with
  | '.' :: rest =>
    if (digits rest).isEmpty then none else exponentOf (digits rest) (afterDigits rest)
  | rest => exponentOf [] rest

/-- A numeral that fills the text. A whole part of more than one digit does not start with zero. -/
def read? (text : List Char) : Option Numeral :=
  let (negative, text) :=
    match text with
    | '-' :: rest => (true, rest)
    | rest => (false, rest)
  match digits text with
  | [] => none
  | 0 :: _ :: _ => none
  | whole => readTail? negative whole (afterDigits text)

/-- Written without point and exponent. -/
def isInteger (n : Numeral) : Bool := n.fraction.isEmpty && n.exponent.isNone

/-- The largest significand that is kept exactly. -/
def largestSignificand : Nat := Nat.pow 2 64 - 1

/-- Takes digits into a significand as long as it stays exact; answers it and the digits left. -/
def gather (significand : Nat) : List Nat → Nat × List Nat
  | [] => (significand, [])
  | d :: ds =>
    if significand * 10 + d ≤ largestSignificand then gather (significand * 10 + d) ds
    else (significand, d :: ds)

/-- The number written, none when it is too large. Digits that no longer fit into the significand
count by their place only. -/
def toDouble? (n : Numeral) : Option Double :=
  let (significand, skipped) := gather 0 n.whole
  let (significand, rest) := gather significand n.fraction
  let exponent : Int := (skipped.length : Int) - ((n.fraction.length : Int) - (rest.length : Int))
  Double.ofScientific? n.negative significand (exponent + n.exponent.getD 0)

end Numeral

end CodeEditor.Number
