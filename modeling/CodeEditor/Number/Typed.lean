import CodeEditor.Number.Numeral
import CodeEditor.Text.Blank

/-! # Numbers as people type them

A sign may stand in front, zeros too, and one side of the point may be empty.
-/

namespace CodeEditor.Number

/-- A sign in front of a text: whether it is a minus, and what follows it. -/
def takeSign : List Char → Bool × List Char
  | '-' :: rest => (true, rest)
  | '+' :: rest => (false, rest)
  | rest => (false, rest)

/-- The power of ten after the letter for exponents; zero when there is nothing. -/
def exponentAfter? : List Char → Option Int
  | [] => some 0
  | c :: rest => if c == 'e' || c == 'E' then Numeral.readExponent? rest else none

/-- Digits and the power of ten that they are multiplied by. -/
def readDecimal? (text : List Char) : Option (List Nat × Int) :=
  let whole := Numeral.digits text
  let (fraction, rest) :=
    match Numeral.afterDigits text with
    | '.' :: rest => (Numeral.digits rest, Numeral.afterDigits rest)
    | rest => ([], rest)
  if whole.isEmpty && fraction.isEmpty then none
  else (exponentAfter? rest).map fun e => (whole ++ fraction, e - (fraction.length : Int))

namespace Single

/-- Numbers of at least ten to this power are larger than all that are finite, and numbers of less
than ten to its negative are nearer to zero than to any other. -/
def decimalReach : Int := 60

/-- The number nearest to some digits times a power of ten. -/
def ofDecimal (negative : Bool) (digits : List Nat) (exponent : Int) : Single :=
  let digits := digits.dropWhile (· = 0)
  let places : Int := (digits.length : Int) + exponent
  if digits.isEmpty || places < -decimalReach then ofRatio negative 0 1
  else if decimalReach < places then infinity negative
  else if exponent ≥ 0 then ofRatio negative (ofDigits digits * Nat.pow 10 exponent.toNat) 1
  else ofRatio negative (ofDigits digits) (Nat.pow 10 (-exponent).toNat)

/-- Reads a number. Infinity and what is no number have names in any case of letters. -/
def ofTyped? (s : String) : Option Single :=
  let (negative, rest) := takeSign s.toList
  let word := rest.map Char.toLower
  if word == ['i', 'n', 'f'] || word == ['i', 'n', 'f', 'i', 'n', 'i', 't', 'y'] then
    some (infinity negative)
  else if word == ['n', 'a', 'n'] then some (nan negative)
  else (readDecimal? rest).map fun (digits, exponent) => ofDecimal negative digits exponent

end Single

/-- Reads a number from 0 to 255, which may have a plus sign. -/
def byteOfTyped? (s : String) : Option UInt8 :=
  let text :=
    match s.toList with
    | '+' :: rest => rest
    | rest => rest
  let value := ofDigits (Numeral.digits text)
  if text.isEmpty || !(Numeral.afterDigits text).isEmpty || 255 < value then none
  else some (UInt8.ofNat value)

end CodeEditor.Number
