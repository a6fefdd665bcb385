import CodeEditor.Shell.Syntax
import CodeEditor.Text.Class

/-! # Tokens of the command language -/

namespace CodeEditor.Shell

inductive Token where
  | word (parts : Word)
  | operator (text : String)
  | redirect (stream : Nat) (kind : Redirection)
  | newline
  deriving DecidableEq, Repr, Inhabited

namespace Token

/-- The mark that stands around commands whose output is taken, in an older form. -/
def backquote : Char := Char.ofNat 0x60

/-- The mark around a text that is taken as it stands. -/
def quote : Char := Char.ofNat 0x27

def isNameStart (c : Char) : Bool := Text.isAsciiLetter c || c == '_'

def isNamePart (c : Char) : Bool := isNameStart c || Text.isAsciiDigit c

/-- The characters that are the names of variables by themselves. -/
def isSpecialName (c : Char) : Bool := ['@', '*', '#', '?', '$', '!', '-'].contains c

def endsWord (c : Char) : Bool := [' ', '\t', '\n', ';', '&', '|', '<', '>', '(', ')'].contains c

/-- The text up to the bracket that closes one opened before it, and what follows. -/
def untilClosed (opening closing : Char) (depth : Nat) : List Char → Option (List Char × List Char)
  | [] => none
  | c :: cs =>
    if c == closing && depth == 0 then some ([], cs)
    else
      let depth := if c == opening then depth + 1 else if c == closing then depth - 1 else depth
      (untilClosed opening closing depth cs).map fun (inside, rest) => (c :: inside, rest)

/-- The text up to a mark, and what follows the mark. -/
def untilMark (mark : Char) (text : List Char) : Option (List Char × List Char) :=
  match text.dropWhile (· != mark) with
  | _ :: rest => some (text.takeWhile (· != mark), rest)
  | [] => none

/-- What stands between braces after a dollar sign: a name, and what is taken in its place. -/
def readBraced (quoted : Bool) (inside : List Char) : Part :=
  let name := inside.takeWhile isNamePart
  match inside.dropWhile isNamePart with
  | ':' :: '-' :: fallback => .parameter (String.ofList name) (some fallback) quoted
  | '-' :: fallback => .parameter (String.ofList name) (some fallback) quoted
  | _ =>
    if name.isEmpty then .parameter (String.ofList inside) none quoted
    else .parameter (String.ofList name) none quoted

def readDollar (quoted : Bool) (text : List Char) : Option (Part × List Char) :=
  match text with
  | '(' :: '(' :: rest => do
    let (inside, rest) ← untilClosed '(' ')' 0 rest
    match rest with
    | ')' :: rest => some (.arithmetic inside quoted, rest)
    | _ => none
  | '(' :: rest => do
    let (inside, rest) ← untilClosed '(' ')' 0 rest
    some (.output inside quoted, rest)
  | '\x7b' :: rest => do
    let (inside, rest) ← untilClosed '\x7b' '\x7d' 0 rest
    some (readBraced quoted inside, rest)
  | c :: rest =>
    if isNameStart c then
      some (.parameter (String.ofList (text.takeWhile isNamePart)) none quoted,
        text.dropWhile isNamePart)
    else if Text.isAsciiDigit c || isSpecialName c then
      some (.parameter (String.singleton c) none quoted, rest)
    else some (.text ['$'] true, text)
  | [] => some (.text ['$'] true, [])

/-- The parts of a text in double quotes, and what follows it. -/
def readQuoted : (fuel : Nat) → List Char → Option (Word × List Char)
  | 0, _ => none
  | fuel + 1, text =>
    match text with
    | [] => none
    | '"' :: rest => some ([], rest)
    | '\\' :: '\n' :: rest => readQuoted fuel rest
    | '\\' :: c :: rest =>
      let kept := if ['$', '"', '\\', backquote].contains c then [c] else ['\\', c]
      (readQuoted fuel rest).map fun (parts, rest) => (.text kept true :: parts, rest)
    | '$' :: rest => do
      let (part, rest) ← readDollar true rest
      let (parts, rest) ← readQuoted fuel rest
      some (part :: parts, rest)
    | c :: rest =>
      if c == backquote then do
        let (inside, rest) ← untilMark backquote rest
        let (parts, rest) ← readQuoted fuel rest
        some (.output inside true :: parts, rest)
      else (readQuoted fuel rest).map fun (parts, rest) => (.text [c] true :: parts, rest)

/-- The parts of a word, and what follows it. -/
def readWord : (fuel : Nat) → List Char → Option (Word × List Char)
  | 0, _ => none
  | fuel + 1, text =>
    let following (before : Word) (rest : List Char) :=
      (readWord fuel rest).map fun (parts, rest) => (before ++ parts, rest)
    match text with
    | [] => some ([], [])
    | '"' :: rest => do
      let (inside, rest) ← readQuoted fuel rest
      following (if inside.isEmpty then [.text [] true] else inside) rest
    | '\\' :: '\n' :: rest => readWord fuel rest
    | '\\' :: c :: rest => following [.text [c] true] rest
    | '$' :: rest => do
      let (part, rest) ← readDollar false rest
      following [part] rest
    | c :: rest =>
      if c == quote then do
        let (inside, rest) ← untilMark quote rest
        following [.text inside true] rest
      else if c == backquote then do
        let (inside, rest) ← untilMark backquote rest
        following [.output inside false] rest
      else if endsWord c then some ([], text)
      else following [.text [c] false] rest

/-- The operator at the start of a text. -/
def readOperator? : List Char → Option (Token × List Char)
  | ';' :: ';' :: rest => some (.operator ";;", rest)
  | ';' :: rest => some (.operator ";", rest)
  | '&' :: '&' :: rest => some (.operator "&&", rest)
  | '&' :: rest => some (.operator ";", rest)
  | '|' :: '|' :: rest => some (.operator "||", rest)
  | '|' :: rest => some (.operator "|", rest)
  | '(' :: rest => some (.operator "(", rest)
  | ')' :: rest => some (.operator ")", rest)
  | _ => none

/-- The redirection at the start of a text, perhaps with the number of a stream. -/
def readRedirect? (text : List Char) : Option (Token × List Char) :=
  let (stream, text) :=
    match text with
    | c :: d :: rest =>
      if Text.isAsciiDigit c && (d == '<' || d == '>') then (some (c.toNat - '0'.toNat), d :: rest)
      else (none, text)
    | _ => (none, text)
  match text with
  | '>' :: '>' :: rest => some (.redirect (stream.getD 1) .append, rest)
  | '>' :: '&' :: rest => some (.redirect (stream.getD 1) .duplicate, rest)
  | '>' :: '|' :: rest => some (.redirect (stream.getD 1) .output, rest)
  | '>' :: rest => some (.redirect (stream.getD 1) .output, rest)
  | '<' :: '&' :: rest => some (.redirect (stream.getD 0) .duplicate, rest)
  | '<' :: rest => some (.redirect (stream.getD 0) .input, rest)
  | _ => none

/-- The tokens of a text with the lines that they start in. -/
def readAll : (fuel line : Nat) → List Char → Option (List (Nat × Token))
  | 0, _, _ => none
  | fuel + 1, line, text =>
    match text with
    | [] => some []
    | ' ' :: rest => readAll fuel line rest
    | '\t' :: rest => readAll fuel line rest
    | '\n' :: rest => (readAll fuel (line + 1) rest).map ((line, .newline) :: ·)
    | '\\' :: '\n' :: rest => readAll fuel (line + 1) rest
    | '#' :: rest => readAll fuel line (rest.dropWhile (· != '\n'))
    | _ =>
      match (readRedirect? text).orElse fun _ => readOperator? text with
      | some (token, rest) => (readAll fuel line rest).map ((line, token) :: ·)
      | none => do
        let (parts, rest) ← readWord (text.length + 1) text
        let lines := (text.take (text.length - rest.length)).count '\n'
        return (line, .word parts) :: (← readAll fuel (line + lines) rest)

def ofText? (text : List Char) : Option (List (Nat × Token)) := readAll (text.length + 1) 1 text

end Token

end CodeEditor.Shell
