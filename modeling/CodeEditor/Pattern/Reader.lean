import CodeEditor.Pattern.Bracket

/-! # Reading expressions

The reader takes one piece of an expression after the other, with what repeats it, and keeps the
groups that are still open.
-/

namespace CodeEditor.Pattern

structure Flags where
  ignoreCase : Bool := false
  /-- `^` and `$` hold at line feeds. -/
  multiLine : Bool := false
  /-- The dot stands for line feeds too. -/
  dotAll : Bool := false
  /-- Repeats are lazy, and those marked lazy are greedy. -/
  swapGreed : Bool := false
  /-- Space and comments are passed over. -/
  verbose : Bool := false
  deriving DecidableEq, Repr, Inhabited

inductive GroupKind where
  | plain
  | capture (index : Nat)
  | atomic
  | look (direction : Direction) (negated : Bool)
  deriving DecidableEq, Repr

def GroupKind.wrap (kind : GroupKind) (body : Pattern) : Pattern :=
  match kind with
  | plain => body
  | capture index => group index body
  | atomic => .atomic body
  | look direction negated => .look direction negated body

/-- The pieces read since a group opened: those of its current branch and its earlier branches,
last one first. -/
structure Branches where
  earlier : List Pattern := []
  pieces : List Pattern := []
  deriving Inhabited

namespace Branches

/-- An empty piece adds nothing. -/
def add (b : Branches) (piece : Pattern) : Branches :=
  if piece = .empty then b else { b with pieces := piece :: b.pieces }

def current (b : Branches) : Pattern := sequence b.pieces.reverse

def next (b : Branches) : Branches := ⟨b.current :: b.earlier, []⟩

def close (b : Branches) : Pattern := choice (b.current :: b.earlier).reverse

end Branches

structure OpenGroup where
  kind : GroupKind
  /-- What was read around the group. -/
  around : Branches
  flags : Flags

structure Reading where
  flags : Flags := {}
  branches : Branches := {}
  open_ : List OpenGroup := []
  /-- How many groups remember their text. -/
  groups : Nat := 0
  names : List (List Char × Nat) := []
  /-- Some group has been referred to by number. -/
  numbered : Bool := false
  deriving Inhabited

/-- How many groups may be open at once. -/
def deepest : Nat := 63

/-- What follows a comment. A backslash hides the character after it. -/
def afterComment? (hidden : Bool) : List Char → Option (List Char)
  | [] => none
  | c :: rest =>
    if hidden then afterComment? false rest
    else if c == ')' then some rest
    else afterComment? (c == '\\') rest

/-- Passes over comments and, in verbose mode, over space. The bound is never reached when it is
greater than the number of characters. -/
def skipSpace (flags : Flags) : Nat → List Char → Except Rejection (List Char)
  | 0, text => return text
  | bound + 1, text =>
    match text with
    | '(' :: '?' :: '#' :: rest =>
      match afterComment? false rest with
      | some rest => skipSpace flags bound rest
      | none => throw .unclosedGroup
    | '#' :: rest =>
      if flags.verbose then skipSpace flags bound ((rest.dropWhile (· != '\n')).drop 1)
      else return text
    | c :: rest =>
      if flags.verbose && (c == ' ' || c == '\t' || c == '\r' || c == '\n') then
        skipSpace flags bound rest
      else return text
    | [] => return []

/-- Passes over comments and space in the whole of a text. -/
def skip (flags : Flags) (text : List Char) : Except Rejection (List Char) :=
  skipSpace flags (text.length + 1) text

/-- The bounds of a repeat in braces, and what follows them; none when the brace opens no repeat. -/
def readBounds? (flags : Flags) (text : List Char) : Option ((Nat × Option Nat) × List Char) := do
  let text ← (skip flags text).toOption
  let digits := Number.Numeral.digits text
  let afterLow := Number.Numeral.afterDigits text
  if digits.isEmpty && afterLow.head? != some ',' then none
  let low := Number.ofDigits digits
  match ← (skip flags afterLow).toOption with
  | '\x7d' :: rest => some ((low, some low), rest)
  | ',' :: rest =>
    let rest ← (skip flags rest).toOption
    let digits := Number.Numeral.digits rest
    match ← (skip flags (Number.Numeral.afterDigits rest)).toOption with
    | '\x7d' :: rest =>
      some ((low, if digits.isEmpty then none else some (Number.ofDigits digits)), rest)
    | _ => none
  | _ => none

/-- The bounds of the repeat that stands next, if any does. -/
def readRepeat? (flags : Flags) (text : List Char) : Option ((Nat × Option Nat) × List Char) :=
  match text with
  | '?' :: rest => some ((0, some 1), rest)
  | '*' :: rest => some ((0, none), rest)
  | '+' :: rest => some ((1, none), rest)
  | '\x7b' :: rest => readBounds? flags rest
  | _ => none

/-- A piece with what repeats it: bounds, then `?` for as seldom as possible, then `+` for keeping
all that was taken. -/
def readRepeated (flags : Flags) (piece : Pattern) (text : List Char) :
    Except Rejection (Pattern × List Char) := do
  let text ← skip flags text
  match readRepeat? flags text with
  | none => return (piece, text)
  | some ((low, high), rest) =>
    if !piece.isRepeatable then throw .nothingToRepeat
    if high.any (· < low) then throw .reversedRepeat
    let rest ← skip flags rest
    let (seldom, rest) :=
      match rest with
      | '?' :: rest => (true, rest)
      | rest => (false, rest)
    let repeated := Pattern.repeat low high (seldom == flags.swapGreed) piece
    match rest with
    | '+' :: rest => return (.atomic repeated, rest)
    | rest => return (repeated, rest)

/-- Reads flags up to the `)` or `:` that ends them; answers them and whether a body follows. The
bound is never reached when it is greater than the number of characters. -/
def readFlags (bound : Nat) (flags : Flags) (clear any sinceSign : Bool) (text : List Char) :
    Except Rejection (Flags × Bool × List Char) :=
  match bound with
  | 0 => throw .unclosedGroup
  | bound + 1 => do
    match ← skip flags text with
    | [] => throw .unclosedGroup
    | 'i' :: rest => readFlags bound { flags with ignoreCase := !clear } clear true true rest
    | 'm' :: rest => readFlags bound { flags with multiLine := !clear } clear true true rest
    | 's' :: rest => readFlags bound { flags with dotAll := !clear } clear true true rest
    | 'U' :: rest => readFlags bound { flags with swapGreed := !clear } clear true true rest
    | 'x' :: rest => readFlags bound { flags with verbose := !clear } clear true true rest
    | 'u' :: rest =>
      if clear then throw .unknownFlag else readFlags bound flags clear true true rest
    | '-' :: rest =>
      if clear then throw .unknownFlag else readFlags bound flags true true false rest
    | ')' :: rest =>
      if !any || (clear && !sinceSign) then throw .unknownFlag else return (flags, false, rest)
    | ':' :: rest =>
      if clear && !sinceSign then throw .unknownFlag else return (flags, true, rest)
    | _ => throw .unknownFlag

namespace Reading

def openGroup (r : Reading) (kind : GroupKind) (flags : Flags) : Except Rejection Reading :=
  if deepest ≤ r.open_.length then throw .tooDeep
  else return { r with
    flags := flags
    branches := {}
    open_ := ⟨kind, r.branches, r.flags⟩ :: r.open_ }

/-- Opens a group that remembers its text, under a name if it has one. -/
def openCapture (r : Reading) (name : Option (List Char)) : Except Rejection Reading :=
  let index := r.groups + 1
  let names := match name with | some name => (name, index) :: r.names | none => r.names
  Reading.openGroup { r with groups := index, names := names } (.capture index) r.flags

/-- Numbers must not be used where groups have names. This is looked at where a group, or the
expression, has one branch only. -/
def checkReferences (r : Reading) : Except Rejection Unit :=
  if r.branches.earlier.isEmpty && r.numbered && !r.names.isEmpty then throw .mixedReferences
  else return ()

/-- The group that a name or a number in its place refers to. -/
def resolve? (r : Reading) (name : List Char) : Option Nat :=
  match r.names.lookup name with
  | some index => some index
  | none =>
    if name.isEmpty || !name.all Text.isAsciiDigit then none
    else
      let index := Number.ofDigits (Number.Numeral.digits name)
      if index ≤ r.groups then some index else none

def addPiece (r : Reading) (piece : Pattern) (text : List Char) :
    Except Rejection (Reading × List Char) := do
  let (piece, rest) ← readRepeated r.flags piece text
  return ({ r with branches := r.branches.add piece }, rest)

def closeGroup (r : Reading) (text : List Char) : Except Rejection (Reading × List Char) := do
  match r.open_ with
  | [] => throw .unopenedGroup
  | innermost :: outer =>
    r.checkReferences
    let around := { r with flags := innermost.flags, branches := innermost.around, open_ := outer }
    around.addPiece (innermost.kind.wrap r.branches.close) text

def startGroup (r : Reading) (text : List Char) : Except Rejection (Reading × List Char) := do
  match ← skip r.flags text with
  | '?' :: '=' :: rest => return (← r.openGroup (.look .ahead false) r.flags, rest)
  | '?' :: '!' :: rest => return (← r.openGroup (.look .ahead true) r.flags, rest)
  | '?' :: '<' :: '=' :: rest => return (← r.openGroup (.look .behind false) r.flags, rest)
  | '?' :: '<' :: '!' :: rest => return (← r.openGroup (.look .behind true) r.flags, rest)
  | '?' :: '>' :: rest => return (← r.openGroup .atomic r.flags, rest)
  | '?' :: '<' :: rest | '?' :: 'P' :: '<' :: rest =>
    match readName? '>' rest with
    | some (name, rest) => return (← r.openCapture (some name), rest)
    | none => throw .malformedGroupName
  | '?' :: 'P' :: '=' :: rest =>
    match readName? ')' rest with
    | some (name, rest) =>
      match r.resolve? name with
      | some index => r.addPiece (.backreference index r.flags.ignoreCase) rest
      | none => throw .unknownGroup
    | none => throw .malformedGroupName
  | '?' :: rest =>
    let (flags, body, rest) ← readFlags (rest.length + 1) r.flags false false false rest
    if body then return (← r.openGroup .plain flags, rest)
    else Reading.addPiece { r with flags := flags } .empty rest
  | rest => return (← r.openCapture none, rest)

def escaped (r : Reading) (e : Escaped) : Except Rejection (Reading × Pattern) :=
  match e with
  | .char c => return (r, .set (.ofChar r.flags.ignoreCase c))
  | .set s => return (r, .set (.closed (r.flags.ignoreCase && !s.isClosed) s))
  | .anchor a => return (r, .anchor a)
  | .reference number =>
    if number ≤ r.groups then
      return ({ r with numbered := true }, .backreference number r.flags.ignoreCase)
    else throw .unknownGroup
  | .namedReference name =>
    match r.resolve? name with
    | some index => return (r, .backreference index r.flags.ignoreCase)
    | none => throw .unknownGroup

def step (r : Reading) (text : List Char) : Except Rejection (Reading × List Char) := do
  match text with
  | [] => return (r, [])
  | c :: rest =>
    match c with
    | '|' => return ({ r with branches := r.branches.next }, rest)
    | '(' => r.startGroup rest
    | ')' => r.closeGroup rest
    | '?' | '*' | '+' => throw .nothingToRepeat
    | '.' => r.addPiece (.set (if r.flags.dotAll then .any else .complement (.single '\n'))) rest
    | '^' => r.addPiece (.anchor (if r.flags.multiLine then .lineStart else .textStart)) rest
    | '$' => r.addPiece (.anchor (if r.flags.multiLine then .lineEnd else .textEnd)) rest
    | '[' =>
      let (s, rest) ← Bracket.readSet r.flags.ignoreCase rest
      r.addPiece (.set s) rest
    | '\\' =>
      let (e, rest) ← readEscape false rest
      let (r, piece) ← r.escaped e
      r.addPiece piece rest
    | c => r.addPiece (.set (.ofChar r.flags.ignoreCase c)) rest

/-- Reads the rest of an expression. The bound is never reached when it is greater than the number
of characters. -/
def readAll (r : Reading) (bound : Nat) (text : List Char) : Except Rejection Pattern := do
  match bound, ← skip r.flags text with
  | _, [] =>
    if !r.open_.isEmpty then throw .unclosedGroup
    r.checkReferences
    return r.branches.close
  | 0, _ => throw .unclosedGroup
  | bound + 1, text =>
    let (r, rest) ← r.step text
    readAll r bound rest

end Reading

def parse (expression : List Char) : Except Rejection Pattern :=
  Reading.readAll {} (expression.length + 1) expression

end CodeEditor.Pattern
