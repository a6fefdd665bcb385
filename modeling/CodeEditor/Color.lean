import CodeEditor.Number.Single
import CodeEditor.Text.Blank
import CodeEditor.Text.Class

/-! # Colors

A color is written as `#` and two hexadecimal digits for each of red, green and blue, with two more
for alpha in front when it is not opaque.
-/

namespace CodeEditor

structure Color where
  red : UInt8
  green : UInt8
  blue : UInt8
  alpha : UInt8
  deriving DecidableEq, Repr

namespace Color

def rgb (red green blue : UInt8) : Color := ⟨red, green, blue, 255⟩

def black : Color := rgb 0 0 0

instance : Inhabited Color := ⟨black⟩

/-- Alpha as a fraction of one. -/
def opacity (c : Color) : Number.Single := .ofRatio false c.alpha.toNat 255

/-- The value of a hexadecimal digit of either case. -/
def hexValue? (c : Char) : Option UInt8 :=
  if '0' ≤ c && c ≤ '9' then some (UInt8.ofNat (c.toNat - '0'.toNat))
  else if 'a' ≤ c && c ≤ 'f' then some (UInt8.ofNat (c.toNat - 'a'.toNat + 10))
  else if 'A' ≤ c && c ≤ 'F' then some (UInt8.ofNat (c.toNat - 'A'.toNat + 10))
  else none

/-- The byte that two hexadecimal digits write. -/
def byte? (high low : Char) : Option UInt8 := do
  return (← hexValue? high) * 16 + (← hexValue? low)

/-- The text without one `#` at its front. -/
def withoutMark : List Char → List Char
  | '#' :: digits => digits
  | digits => digits

/-- The color that six or eight digits write. -/
def ofDigits? : List Char → Option Color
  | [r₁, r₀, g₁, g₀, b₁, b₀] => do
    return rgb (← byte? r₁ r₀) (← byte? g₁ g₀) (← byte? b₁ b₀)
  | [a₁, a₀, r₁, r₀, g₁, g₀, b₁, b₀] => do
    return ⟨← byte? r₁ r₀, ← byte? g₁ g₀, ← byte? b₁ b₀, ← byte? a₁ a₀⟩
  | _ => none

/-- Reads a color in either case of digits, with or without `#` and with blanks around it. -/
def ofHex? (s : String) : Option Color := ofDigits? (withoutMark (Text.trim s.toList))

def hexDigit (n : Nat) : Char :=
  if n < 10 then Char.ofNat ('0'.toNat + n) else Char.ofNat ('A'.toNat + (n - 10))

/-- Two digits for a byte. -/
def pair (b : UInt8) : List Char := [hexDigit (b.toNat / 16), hexDigit (b.toNat % 16)]

/-- The written form of a color, in capital digits. -/
def toHex (c : Color) : String :=
  let channels := pair c.red ++ pair c.green ++ pair c.blue
  String.ofList ('#' :: if c.alpha = 255 then channels else pair c.alpha ++ channels)

instance : ToString Color := ⟨toHex⟩

end Color

end CodeEditor
