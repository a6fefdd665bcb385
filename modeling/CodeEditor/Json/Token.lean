import CodeEditor.Json.Basic

/-! # Tokens of a JSON text -/

namespace CodeEditor.Json

/-- A token: one of the six punctuation marks, or a value that holds no other. -/
inductive Token where
  | mark (c : Char)
  | scalar (value : Json)
  deriving Repr, Inhabited

namespace Token

def isSpace (c : Char) : Bool := c == ' ' || c == '\t' || c == '\n' || c == '\r'

def isMark (c : Char) : Bool :=
  c == '[' || c == ']' || c == '\x7b' || c == '\x7d' || c == ',' || c == ':'

/-- The characters of numerals and of the words `null`, `true` and `false`. -/
def isWordChar (c : Char) : Bool :=
  Text.isAsciiLetter c || Text.isAsciiDigit c || c == '+' || c == '-' || c == '.'

/-- The value written by a word. -/
def ofWord? (word : List Char) : Option Json :=
  if word == ['n', 'u', 'l', 'l'] then some .null
  else if word == ['t', 'r', 'u', 'e'] then some (.bool true)
  else if word == ['f', 'a', 'l', 's', 'e'] then some (.bool false)
  else (Number.Numeral.read? word).map .number

/-- The part of a string literal that has been read, last character first. -/
structure OpenText where
  read : List Char
  /-- No escape so far names half of a surrogate pair. -/
  whole : Bool
  /-- The first half of a pair, when the literal read so far ends in one. -/
  half : Option Nat
  deriving Repr

namespace OpenText

/-- Nothing can complete a first half any more. -/
def settle (t : OpenText) : OpenText := ⟨t.read, t.whole && t.half.isNone, none⟩

def push (t : OpenText) (c : Char) : OpenText :=
  let t := t.settle
  ⟨c :: t.read, t.whole, none⟩

/-- Adds the UTF-16 unit that an escape names. -/
def pushUnit (t : OpenText) (code : Nat) : OpenText :=
  if 0xD800 ≤ code && code < 0xDC00 then
    let t := t.settle
    ⟨t.read, t.whole, some code⟩
  else if 0xDC00 ≤ code && code < 0xE000 then
    match t.half with
    | some high =>
      ⟨Char.ofNat (0x10000 + (high - 0xD800) * 0x400 + (code - 0xDC00)) :: t.read, t.whole, none⟩
    | none => ⟨t.read, false, none⟩
  else t.push (Char.ofNat code)

/-- What the literal stands for once it ends. -/
def close (t : OpenText) : Json.Literal :=
  let t := t.settle
  if t.whole then some (String.ofList t.read.reverse) else none

end OpenText

/-- The character that a one-letter escape names. -/
def unescape? (c : Char) : Option Char :=
  match c with
  | '"' => some '"'
  | '\\' => some '\\'
  | '/' => some '/'
  | 'b' => some '\x08'
  | 'f' => some '\x0c'
  | 'n' => some '\n'
  | 'r' => some '\r'
  | 't' => some '\t'
  | _ => none

def hexValue? (c : Char) : Option Nat :=
  if Text.isAsciiDigit c then some (c.toNat - '0'.toNat)
  else if 'a' ≤ c && c ≤ 'f' then some (c.toNat - 'a'.toNat + 10)
  else if 'A' ≤ c && c ≤ 'F' then some (c.toNat - 'A'.toNat + 10)
  else none

inductive Mode where
  | between
  | inWord (read : List Char)
  | inText (read : OpenText)
  /-- After a backslash. -/
  | escape (read : OpenText)
  /-- After a backslash and a `u`: the value so far and how many digits it still lacks. -/
  | unit (read : OpenText) (code : Nat) (lacking : Nat)

/-- What a character outside words and literals adds, and where it leads. -/
def start? (c : Char) (done : List Token) : Option (Mode × List Token) :=
  if isSpace c then some (.between, done)
  else if isMark c then some (.between, .mark c :: done)
  else if c == '"' then some (.inText ⟨[], true, none⟩, done)
  else if isWordChar c then some (.inWord [c], done)
  else none

/-- What one more character adds, the tokens being kept last one first. -/
def step? (mode : Mode) (done : List Token) (c : Char) : Option (Mode × List Token) :=
  match mode with
  | .between => start? c done
  | .inWord word =>
    if isWordChar c then some (.inWord (c :: word), done)
    else do start? c (.scalar (← ofWord? word.reverse) :: done)
  | .inText t =>
    if c == '"' then some (.between, .scalar (.text t.close) :: done)
    else if c == '\\' then some (.escape t, done)
    else if c.toNat < 0x20 then none
    else some (.inText (t.push c), done)
  | .escape t =>
    if c == 'u' then some (.unit t 0 4, done)
    else (unescape? c).map fun named => (.inText (t.push named), done)
  | .unit t code lacking => do
    let code := code * 16 + (← hexValue? c)
    if lacking ≤ 1 then some (.inText (t.pushUnit code), done)
    else some (.unit t code (lacking - 1), done)

/-- The tokens left to read in a text, after those that are done. -/
def read? (mode : Mode) (done : List Token) : List Char → Option (List Token)
  | [] =>
    match mode with
    | .between => some done.reverse
    | .inWord word => (ofWord? word.reverse).map fun v => (.scalar v :: done).reverse
    | _ => none
  | c :: rest =>
    match step? mode done c with
    | some (mode, done) => read? mode done rest
    | none => none

/-- The tokens of a text. -/
def ofText? (text : List Char) : Option (List Token) := read? .between [] text

end Token

end CodeEditor.Json
