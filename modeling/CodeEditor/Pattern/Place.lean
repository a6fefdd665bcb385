import CodeEditor.Pattern.Basic

/-! # Places in a text -/

namespace CodeEditor.Pattern

/-- A place between two characters, with the text on both sides of it. -/
structure Place where
  /-- What stands before the place, nearest character first. -/
  before : List Char
  after : List Char
  /-- The byte offset of the place. -/
  byte : Nat
  deriving DecidableEq, Repr, Inhabited

namespace Place

def start (text : List Char) : Place := ⟨[], text, 0⟩

/-- The place after the next character, if that is in the set. -/
def accept? (p : Place) (s : CharSet) : Option Place :=
  match p.after with
  | [] => none
  | c :: rest => if s.contains c then some ⟨c :: p.before, rest, p.byte + c.utf8Size⟩ else none

/-- The place so many characters back, if there are so many. -/
def back? (p : Place) : Nat → Option Place
  | 0 => some p
  | n + 1 =>
    match p.before with
    | [] => none
    | c :: rest => back? ⟨rest, c :: p.after, p.byte - c.utf8Size⟩ n

/-- The characters at the start of a text that take so many bytes. -/
def firstBytes (bytes : Nat) : List Char → List Char
  | [] => []
  | c :: rest => if bytes = 0 then [] else c :: firstBytes (bytes - c.utf8Size) rest

/-- The characters from the place up to a byte offset. -/
def textTo (p : Place) (byte : Nat) : List Char := firstBytes (byte - p.byte) p.after

/-- The place after a text, if that stands here. -/
def skip? (p : Place) (ignoreCase : Bool) : List Char → Option Place
  | [] => some p
  | c :: cs => do
    (← p.accept? (.ofChar ignoreCase c)).skip? ignoreCase cs

def isWordBoundary (p : Place) : Bool :=
  p.before.head?.any Text.isWord != p.after.head?.any Text.isWord

end Place

def Anchor.holds (a : Anchor) (p : Place) : Bool :=
  match a with
  | textStart => p.before.isEmpty
  | textEnd => p.after.isEmpty
  | lastLineEnd => p.after.all (· == '\n')
  | lineStart => p.before.isEmpty || p.before.head? == some '\n'
  | lineEnd => p.after.isEmpty || p.after.head? == some '\n'
  | wordBoundary => p.isWordBoundary
  | noWordBoundary => !p.isWordBoundary

end CodeEditor.Pattern
