import CodeEditor.Text.Table.Alphanumeric
import CodeEditor.Text.Table.Word
import CodeEditor.Text.Table.Digit

/-! # Classes of characters

Each class is given by its ASCII part, decided by rule, and a table for the rest.
-/

namespace CodeEditor.Text

def isAsciiDigit (c : Char) : Bool := '0' ≤ c && c ≤ '9'

def isAsciiLetter (c : Char) : Bool := ('a' ≤ c && c ≤ 'z') || ('A' ≤ c && c ≤ 'Z')

def isAsciiHexDigit (c : Char) : Bool :=
  isAsciiDigit c || ('a' ≤ c && c ≤ 'f') || ('A' ≤ c && c ≤ 'F')

/-- Alphabetic characters and numbers of any script. -/
def isAlphanumeric (c : Char) : Bool :=
  if c.toNat < 0x80 then isAsciiLetter c || isAsciiDigit c
  else Table.alphanumeric.contains c.toNat

/-- Characters of words, with marks and connectors such as the underscore. -/
def isWord (c : Char) : Bool :=
  if c.toNat < 0x80 then isAsciiLetter c || isAsciiDigit c || c == '_'
  else Table.word.contains c.toNat

/-- Decimal digits of any script. -/
def isDecimalDigit (c : Char) : Bool :=
  if c.toNat < 0x80 then isAsciiDigit c else Table.decimalDigit.contains c.toNat

end CodeEditor.Text
