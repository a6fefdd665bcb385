import CodeEditor.Pattern.Escape

/-! # Bracket expressions

A bracket expression is first cut out of its text, then its parts are read: characters, ranges,
classes, and nested expressions, which the operators combine.
-/

namespace CodeEditor.Pattern.Bracket

/-- A part of a bracket expression: a character that may have a meaning, one that has not, or a
class. -/
inductive Part where
  | bare (c : Char)
  | literal (c : Char)
  | set (s : CharSet)
  deriving DecidableEq, Repr

/-- The parts up to the bracket that closes the expression, last one first; `depth` more brackets
are open. The bound is never reached when it is greater than the number of characters. -/
def cut (bound depth : Nat) (parts : List Part) (text : List Char) :
    Except Rejection (List Part × List Char) :=
  match bound, text with
  | 0, _ => throw .unclosedClass
  | _, [] => throw .unclosedClass
  | bound + 1, '\\' :: rest => do
    let (escaped, rest) ← readEscape true rest
    match escaped with
    | .char c => cut bound depth (.literal c :: parts) rest
    | .set s => cut bound depth (.set s :: parts) rest
    | _ => throw .malformedClass
  | bound + 1, '[' :: rest => cut bound (depth + 1) (.bare '[' :: parts) rest
  | bound + 1, ']' :: rest =>
    match depth with
    | 0 => return (parts, rest)
    | depth + 1 => cut bound depth (.bare ']' :: parts) rest
  | bound + 1, c :: rest => cut bound depth (.bare c :: parts) rest

/-- The parts of the expression that a bracket opens, and the text after it. A closing bracket that
comes first stands for itself. -/
def parts (text : List Char) : Except Rejection (List Part × List Char) := do
  let (opening, text) :=
    match text with
    | '^' :: rest => ([Part.bare '^'], rest)
    | _ => ([], text)
  let (opening, text) :=
    match text with
    | ']' :: rest => (Part.literal ']' :: opening, rest)
    | _ => (opening, text)
  let (found, rest) ← cut (text.length + 1) 0 opening text
  return (found.reverse, rest)

inductive Operator where
  | intersection
  | difference
  | symmetricDifference
  deriving DecidableEq, Repr

def Operator.apply : Operator → CharSet → CharSet → CharSet
  | intersection, a, b => .intersection a b
  | difference, a, b => .difference a b
  | symmetricDifference, a, b => .symmetricDifference a b

/-- The operator written by a doubled character. -/
def operator? : List Part → Option (Operator × List Part)
  | .bare '&' :: .bare '&' :: rest => some (.intersection, rest)
  | .bare '-' :: .bare '-' :: rest => some (.difference, rest)
  | .bare '~' :: .bare '~' :: rest => some (.symmetricDifference, rest)
  | _ => none

/-- The named class written between colons in brackets. -/
def asciiClass? : List Part → Option (CharSet × List Part)
  | .bare '[' :: .bare ':' :: rest =>
    let (negated, rest) :=
      match rest with
      | .bare '^' :: rest => (true, rest)
      | rest => (false, rest)
    let isLetter (p : Part) : Bool :=
      match p with
      | .bare c => Text.isAsciiLetter c
      | _ => false
    let name := (rest.takeWhile isLetter).filterMap fun p =>
      match p with
      | .bare c => some c
      | _ => none
    match rest.dropWhile isLetter with
    | .bare ':' :: .bare ']' :: rest =>
      (AsciiClass.ofName? name).map fun k =>
        (if negated then .complement (.ascii k) else .ascii k, rest)
    | _ => none
  | _ => none

/-- The character of a part that can bound a range. -/
def bound? : Part → Option Char
  | .bare c | .literal c => some c
  | .set _ => none

def readItem (ignoreCase : Bool) (first : Part) (rest : List Part) :
    Except Rejection (CharSet × List Part) :=
  let alone : Except Rejection (CharSet × List Part) :=
    match first with
    | .bare c | .literal c => return (.ofChar ignoreCase c, rest)
    | .set s => return (.closed ignoreCase s, rest)
  match rest with
  | .bare '-' :: .bare ']' :: _ | .bare '-' :: .bare '-' :: _ => alone
  | [.bare '-'] => alone
  | .bare '-' :: last :: rest =>
    match bound? first, bound? last with
    | some low, some high =>
      if low ≤ high then return (.closed ignoreCase (.range low high), rest)
      else throw .reversedRange
    | _, _ => throw .malformedClass
  | _ => alone

/-- What is known of an expression that is being read. -/
structure Open where
  negated : Bool
  /-- What stands before the last operator. -/
  left : Option (CharSet × Operator)
  /-- What stands after it. -/
  items : CharSet

/-- An expression that holds nothing yet, and the parts after its opening ones: a `^`, hyphens that
stand for themselves, and a closing bracket that does. -/
def openSet (ignoreCase : Bool) (parts : List Part) : Open × List Part :=
  let (negated, parts) :=
    match parts with
    | .bare '^' :: rest => (true, rest)
    | _ => (false, parts)
  let hyphens := parts.takeWhile (· == .bare '-')
  let parts := parts.dropWhile (· == .bare '-')
  if hyphens.isEmpty then
    match parts with
    | .bare ']' :: rest => (⟨negated, none, .ofChar ignoreCase ']'⟩, rest)
    | _ => (⟨negated, none, .none⟩, parts)
  else (⟨negated, none, .ofChar ignoreCase '-'⟩, parts)

namespace Open

def add (o : Open) (s : CharSet) : Open :=
  { o with items := match o.items with | .none => s | items => .union items s }

/-- What stands before the next operator. -/
def combined (o : Open) : CharSet :=
  match o.left with
  | none => o.items
  | some (left, operator) => operator.apply left o.items

def operate (o : Open) (operator : Operator) : Open :=
  { o with left := some (o.combined, operator), items := .none }

def close (o : Open) : CharSet := if o.negated then .complement o.combined else o.combined

end Open

/-- Reads the parts of an expression; `outer` holds the expressions around it. The bound is never
reached when it is greater than the number of parts. -/
def read (ignoreCase : Bool) (bound : Nat) (current : Open) (outer : List Open)
    (parts : List Part) : Except Rejection CharSet :=
  match bound with
  | 0 => throw .unclosedClass
  | bound + 1 =>
    match operator? parts, asciiClass? parts, parts with
    | some (operator, rest), _, _ => read ignoreCase bound (current.operate operator) outer rest
    | none, some (s, rest), _ =>
      read ignoreCase bound (current.add (.closed ignoreCase s)) outer rest
    | none, none, [] => if outer.isEmpty then return current.close else throw .unclosedClass
    | none, none, .bare '[' :: rest =>
      let (inner, rest) := openSet ignoreCase rest
      read ignoreCase bound inner (current :: outer) rest
    | none, none, .bare ']' :: rest =>
      match outer with
      | [] => throw .malformedClass
      | around :: outer => read ignoreCase bound (around.add current.close) outer rest
    | none, none, first :: rest => do
      let (s, rest) ← readItem ignoreCase first rest
      read ignoreCase bound (current.add s) outer rest

/-- The set that the expression after an opening bracket stands for, and the text after it. -/
def readSet (ignoreCase : Bool) (text : List Char) : Except Rejection (CharSet × List Char) := do
  let (found, rest) ← parts text
  let (opened, inner) := openSet ignoreCase found
  return (← read ignoreCase (inner.length + 1) opened [] inner, rest)

end CodeEditor.Pattern.Bracket
