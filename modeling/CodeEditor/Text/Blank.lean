/-! # Blank characters and trimming -/

namespace CodeEditor.Text

/-- The characters that count as white space. -/
def isBlank (c : Char) : Bool :=
  let n := c.toNat
  (9 ≤ n && n ≤ 13) || n == 0x20 || n == 0x85 || n == 0xA0 || n == 0x1680 ||
    (0x2000 ≤ n && n ≤ 0x200A) || n == 0x2028 || n == 0x2029 || n == 0x202F || n == 0x205F ||
    n == 0x3000

/-- The text without the blanks at its end. -/
def trimEnd (text : List Char) : List Char := (text.reverse.dropWhile isBlank).reverse

def trim (text : List Char) : List Char := trimEnd (text.dropWhile isBlank)

def trimmed (s : String) : String := String.ofList (trim s.toList)

/-- The string has no character other than blanks. -/
def isAllBlank (s : String) : Bool := s.toList.all isBlank

/-- Uppercase ASCII letters become lowercase ones, all else stays. -/
def lowerAscii (s : String) : String := String.ofList (s.toList.map Char.toLower)

end CodeEditor.Text
