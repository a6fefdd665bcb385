import CodeEditor.Json.Basic
import CodeEditor.Number.Written

/-! # Writing JSON documents -/

namespace CodeEditor.Json

/-! ## Strings -/

/-- The hexadecimal digit of a number below sixteen. -/
def hexDigit (n : Nat) : Char :=
  if n < 10 then Char.ofNat ('0'.toNat + n) else Char.ofNat ('a'.toNat + (n - 10))

/-- A character as it stands in a string. Only quotes, backslashes and controls are escaped. -/
def escape (c : Char) : List Char :=
  if c = '"' then ['\\', '"']
  else if c = '\\' then ['\\', '\\']
  else if c = '\n' then ['\\', 'n']
  else if c = '\r' then ['\\', 'r']
  else if c = '\t' then ['\\', 't']
  else if c.toNat = 8 then ['\\', 'b']
  else if c.toNat = 12 then ['\\', 'f']
  else if c.toNat < 0x20 then
    ['\\', 'u', '0', '0', hexDigit (c.toNat / 16), hexDigit (c.toNat % 16)]
  else [c]

def quoted (text : List Char) : List Char := '"' :: (text.flatMap escape ++ ['"'])

/-- A string literal. One without a text is written as half of a surrogate pair. -/
def literalText : Literal → List Char
  | some value => quoted value.toList
  | none => ['"', '\\', 'u', 'd', '8', '0', '0', '"']

def boolText (value : Bool) : List Char :=
  if value then ['t', 'r', 'u', 'e'] else ['f', 'a', 'l', 's', 'e']

def nullText : List Char := ['n', 'u', 'l', 'l']

/-! ## Documents on one line -/

mutual

def compact : Json → List Char
  | .null => nullText
  | .bool value => boolText value
  | .number value => value.text
  | .text value => literalText value
  | .list [] => ['[', ']']
  | .list (item :: items) => '[' :: (item.compact ++ compactItems items ++ [']'])
  | .record [] => ['\x7b', '\x7d']
  | .record ((name, value) :: members) =>
    '\x7b' :: (literalText name ++ ':' :: value.compact ++ compactMembers members ++ ['\x7d'])

def compactItems : List Json → List Char
  | [] => []
  | item :: items => ',' :: (item.compact ++ compactItems items)

def compactMembers : List (Literal × Json) → List Char
  | [] => []
  | (name, value) :: members =>
    ',' :: (literalText name ++ ':' :: value.compact ++ compactMembers members)

end

/-! ## Documents over several lines -/

/-- A new line, indented by two blanks for each level. -/
def newLine (level : Nat) : List Char := '\n' :: List.replicate (2 * level) ' '

mutual

/-- The document with a line for each item and member. `level` is how deep it stands in another. -/
def pretty (level : Nat) : Json → List Char
  | .null => nullText
  | .bool value => boolText value
  | .number value => value.text
  | .text value => literalText value
  | .list [] => ['[', ']']
  | .list (item :: items) =>
    '[' :: (newLine (level + 1) ++ item.pretty (level + 1) ++ prettyItems (level + 1) items ++
      newLine level ++ [']'])
  | .record [] => ['\x7b', '\x7d']
  | .record ((name, value) :: members) =>
    '\x7b' :: (newLine (level + 1) ++ literalText name ++ ':' :: ' ' :: value.pretty (level + 1) ++
      prettyMembers (level + 1) members ++ newLine level ++ ['\x7d'])

def prettyItems (level : Nat) : List Json → List Char
  | [] => []
  | item :: items => ',' :: (newLine level ++ item.pretty level ++ prettyItems level items)

def prettyMembers (level : Nat) : List (Literal × Json) → List Char
  | [] => []
  | (name, value) :: members =>
    ',' :: (newLine level ++ literalText name ++ ':' :: ' ' :: value.pretty level ++
      prettyMembers level members)

end

end CodeEditor.Json
