import CodeEditor.Text.Blank
import CodeEditor.Text.Case
import CodeEditor.Text.Class
import CodeEditor.Text.Table.Letter
import CodeEditor.Text.Table.Script

/-! # Sets of characters in patterns -/

namespace CodeEditor.Pattern

/-- The named classes of bracket expressions, which hold ASCII characters only. -/
inductive AsciiClass where
  | alnum | alpha | ascii | blank | cntrl | digit | graph | lower | print | punct | space | upper
  | word | xdigit
  deriving DecidableEq, Repr

namespace AsciiClass

def ofName? (name : List Char) : Option AsciiClass :=
  match String.ofList name with
  | "alnum" => some alnum
  | "alpha" => some alpha
  | "ascii" => some ascii
  | "blank" => some blank
  | "cntrl" => some cntrl
  | "digit" => some digit
  | "graph" => some graph
  | "lower" => some lower
  | "print" => some print
  | "punct" => some punct
  | "space" => some space
  | "upper" => some upper
  | "word" => some word
  | "xdigit" => some xdigit
  | _ => none

def contains (k : AsciiClass) (c : Char) : Bool :=
  let n := c.toNat
  match k with
  | alnum => Text.isAsciiLetter c || Text.isAsciiDigit c
  | alpha => Text.isAsciiLetter c
  | ascii => n < 0x80
  | blank => c == ' ' || c == '\t'
  | cntrl => n < 0x20 || n == 0x7F
  | digit => Text.isAsciiDigit c
  | graph => 0x21 ≤ n && n ≤ 0x7E
  | lower => 'a' ≤ c && c ≤ 'z'
  | print => 0x20 ≤ n && n ≤ 0x7E
  | punct =>
    0x21 ≤ n && n ≤ 0x7E && !Text.isAsciiLetter c && !Text.isAsciiDigit c
  | space => (9 ≤ n && n ≤ 13) || n == 0x20
  | upper => 'A' ≤ c && c ≤ 'Z'
  | word => Text.isAsciiLetter c || Text.isAsciiDigit c || c == '_'
  | xdigit => Text.isAsciiHexDigit c

end AsciiClass

/-- The properties of characters that patterns can name. -/
inductive Property where
  | letter | uppercaseLetter | decimalNumber | han | whiteSpace | any | ascii
  deriving DecidableEq, Repr

namespace Property

/-- Spelling of property names does not count case, blanks, hyphens and underscores. -/
def key (name : List Char) : String :=
  String.ofList ((name.filter fun c => c != ' ' && c != '-' && c != '_').map Char.toLower)

def ofKey? (name : String) : Option Property :=
  match name with
  | "l" | "letter" | "gc=l" | "gc=letter" | "generalcategory=l" | "generalcategory=letter" =>
    some letter
  | "lu" | "uppercaseletter" | "gc=lu" | "gc=uppercaseletter" | "generalcategory=lu"
  | "generalcategory=uppercaseletter" => some uppercaseLetter
  | "nd" | "decimalnumber" | "digit" | "gc=nd" | "gc=decimalnumber" | "generalcategory=nd" =>
    some decimalNumber
  | "han" | "hani" | "sc=han" | "sc=hani" | "script=han" | "script=hani" => some han
  | "whitespace" | "space" | "wspace" => some whiteSpace
  | "any" => some any
  | "ascii" => some ascii
  | _ => none

def contains (p : Property) (c : Char) : Bool :=
  match p with
  | letter => Text.Table.letter.contains c.toNat
  | uppercaseLetter => Text.Table.uppercaseLetter.contains c.toNat
  | decimalNumber => Text.isDecimalDigit c
  | han => Text.Table.han.contains c.toNat
  | whiteSpace => Text.isBlank c
  | any => true
  | ascii => c.toNat < 0x80

end Property

inductive CharSet where
  | none
  | any
  | single (c : Char)
  /-- The characters that fold to `c`. -/
  | caseless (c : Char)
  | range (low high : Char)
  | digit
  | blank
  | word
  | hexDigit
  | ascii (k : AsciiClass)
  | property (p : Property)
  /-- The characters that have a case counterpart in the set. -/
  | folded (s : CharSet)
  | complement (s : CharSet)
  | union (a b : CharSet)
  | intersection (a b : CharSet)
  deriving DecidableEq, Repr, Inhabited

namespace CharSet

def contains : CharSet → Char → Bool
  | none, _ => false
  | any, _ => true
  | single x, c => c == x
  | caseless x, c => Text.fold c == x
  | range low high, c => low ≤ c && c ≤ high
  | digit, c => Text.isDecimalDigit c
  | blank, c => Text.isBlank c
  | word, c => Text.isWord c
  | hexDigit, c => Text.isAsciiHexDigit c
  | ascii k, c => k.contains c
  | property p, c => p.contains c
  | folded s, c => (Text.counterparts c).any s.contains
  | complement s, c => !s.contains c
  | union a b, c => a.contains c || b.contains c
  | intersection a b, c => a.contains c && b.contains c

/-- One character, or all that fold like it. -/
def ofChar (ignoreCase : Bool) (c : Char) : CharSet :=
  if ignoreCase then caseless (Text.fold c) else single c

/-- One of the named sets, or all but one of them. These hold every case counterpart of a character
together with it. -/
def isClosed : CharSet → Bool
  | digit | blank | word | hexDigit => true
  | complement digit | complement blank | complement word | complement hexDigit => true
  | _ => false

/-- The set, or all characters with a case counterpart in it. -/
def closed (ignoreCase : Bool) (s : CharSet) : CharSet := if ignoreCase then folded s else s

/-- The characters of the first set that are not in the second. -/
def difference (a b : CharSet) : CharSet := intersection a (complement b)

/-- The characters of exactly one of the sets. -/
def symmetricDifference (a b : CharSet) : CharSet := union (difference a b) (difference b a)

end CharSet

end CodeEditor.Pattern
