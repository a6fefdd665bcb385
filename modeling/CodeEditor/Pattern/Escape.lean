import CodeEditor.Number.Numeral
import CodeEditor.Pattern.Basic
import CodeEditor.Pattern.Rejection

/-! # Escapes in expressions -/

namespace CodeEditor.Pattern

/-- What a backslash and the characters after it stand for. -/
inductive Escaped where
  | char (c : Char)
  | set (s : CharSet)
  | anchor (a : Anchor)
  | reference (number : Nat)
  | namedReference (name : List Char)

def hexValue? (c : Char) : Option Nat :=
  if Text.isAsciiDigit c then some (c.toNat - '0'.toNat)
  else if 'a' ≤ c && c ≤ 'f' then some (c.toNat - 'a'.toNat + 10)
  else if 'A' ≤ c && c ≤ 'F' then some (c.toNat - 'A'.toNat + 10)
  else none

def ofHexDigits? (digits : List Char) : Option Nat := do
  let values ← digits.mapM hexValue?
  return values.foldl (fun n d => n * 16 + d) 0

/-- The text up to a closing character and what follows that. -/
def upToClosing? (closing : Char) (text : List Char) : Option (List Char × List Char) :=
  match text.dropWhile (· != closing) with
  | [] => none
  | _ :: rest => some (text.takeWhile (· != closing), rest)

/-- The character with a code, given by so many digits or by one to eight digits in braces. -/
def readCode (size : Nat) (text : List Char) : Except Rejection (Char × List Char) := do
  let (digits, rest) ←
    if text.length ≥ size ∧ (text.take size).all Text.isAsciiHexDigit then
      pure (text.take size, text.drop size)
    else
      match text with
      | '\x7b' :: inner =>
        match upToClosing? '\x7d' inner with
        | some (digits, rest) =>
          if digits.isEmpty || digits.length > 8 then throw .malformedCode else pure (digits, rest)
        | none => throw .malformedCode
      | _ => throw .malformedCode
  match ofHexDigits? digits with
  | none => throw .malformedCode
  | some code => if code.isValidChar then return (Char.ofNat code, rest) else throw (.codeOutOfRange code)

/-- The property named by one letter or by a name in braces, which a `^` negates. -/
def readProperty (negated : Bool) (text : List Char) : Except Rejection (CharSet × List Char) := do
  let (name, rest) ←
    match text with
    | [] => throw (.unknownEscape 'p')
    | '\x7b' :: inner =>
      match upToClosing? '\x7d' inner with
      | some split => pure split
      | none => throw .malformedClass
    | c :: rest => pure ([c], rest)
  let (negated, name) :=
    match name with
    | '^' :: name => (!negated, name)
    | name => (negated, name)
  match Property.ofKey? (Property.key name) with
  | some p => return (if negated then .complement (.property p) else .property p, rest)
  | none => throw (.unknownProperty (String.ofList name))

def isNameChar (c : Char) : Bool := Text.isAlphanumeric c || c == '_'

/-- A name and the character that closes it. -/
def readName? (closing : Char) (text : List Char) : Option (List Char × List Char) :=
  match text.takeWhile isNameChar, text.dropWhile isNameChar with
  | [], _ => none
  | name, c :: rest => if c == closing then some (name, rest) else none
  | _, [] => none

/-- The character that a letter names after a backslash. -/
def controlOf? (inClass : Bool) (c : Char) : Option Char :=
  match c with
  | 'a' => some '\x07'
  | 'b' => if inClass then some '\x08' else none
  | 'e' => some '\x1b'
  | 'f' => some '\x0c'
  | 'n' => some '\n'
  | 'r' => some '\r'
  | 't' => some '\t'
  | 'v' => some '\x0b'
  | _ => none

/-- The class that a letter names after a backslash. -/
def classOf? (c : Char) : Option CharSet :=
  match c with
  | 'd' => some .digit
  | 'D' => some (.complement .digit)
  | 's' => some .blank
  | 'S' => some (.complement .blank)
  | 'w' => some .word
  | 'W' => some (.complement .word)
  | 'h' => some .hexDigit
  | 'H' => some (.complement .hexDigit)
  | _ => none

/-- The condition that a letter names after a backslash. -/
def anchorOf? (c : Char) : Option Anchor :=
  match c with
  | 'A' => some .textStart
  | 'z' => some .textEnd
  | 'Z' => some .lastLineEnd
  | 'b' => some .wordBoundary
  | 'B' => some .noWordBoundary
  | _ => none

def readEscape (inClass : Bool) : List Char → Except Rejection (Escaped × List Char)
  | [] => throw .trailingBackslash
  | c :: rest =>
    match anchorOf? c, classOf? c, controlOf? inClass c with
    | some a, _, none =>
      if inClass then throw .malformedClass
      else if (a == .wordBoundary || a == .noWordBoundary) && rest.head? == some '\x7b' then
        throw (.unknownEscape c)
      else return (.anchor a, rest)
    | _, some s, _ => return (.set s, rest)
    | _, _, some control => return (.char control, rest)
    | none, none, none =>
      if Text.isAsciiDigit c then
        if inClass then throw .malformedClass
        else return (.reference (Number.ofDigits (Number.Numeral.digits (c :: rest))),
          Number.Numeral.afterDigits rest)
      else if c == 'x' then (readCode 2 rest).map fun (c, rest) => (.char c, rest)
      else if c == 'u' then (readCode 4 rest).map fun (c, rest) => (.char c, rest)
      else if c == 'U' then (readCode 8 rest).map fun (c, rest) => (.char c, rest)
      else if c == 'p' || c == 'P' then
        (readProperty (c == 'P') rest).map fun (s, rest) => (.set s, rest)
      else if c == 'k' && !inClass then
        let name :=
          match rest with
          | '<' :: rest => readName? '>' rest
          | '\'' :: rest => readName? '\'' rest
          | _ => none
        match name with
        | some (name, rest) => return (.namedReference name, rest)
        | none => throw .malformedGroupName
      else if Text.isAsciiLetter c then throw (.unknownEscape c)
      else return (.char c, rest)

end CodeEditor.Pattern
