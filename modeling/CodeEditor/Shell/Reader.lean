import CodeEditor.Shell.Token

/-! # Reading scripts -/

namespace CodeEditor.Shell

/-- The tokens that are left, with their lines. -/
abbrev Tokens := List (Nat × Token)

namespace Script

def plainWord? (parts : Word) : Option String :=
  (parts.mapM Part.plain?).map fun chars => String.ofList chars.flatten

/-- The unmarked word at the start of the tokens. -/
def headWord? : Tokens → Option String
  | (_, .word parts) :: _ => plainWord? parts
  | _ => none

def isOperator (text : String) : Tokens → Bool
  | (_, .operator found) :: _ => found == text
  | _ => false

/-- The words that end a list of commands. -/
def closers : List String := ["then", "else", "elif", "fi", "do", "done", "esac", "\x7d"]

/-- Nothing of a list of commands is left. -/
def endsList (tokens : Tokens) : Bool :=
  tokens.isEmpty || isOperator ")" tokens || isOperator ";;" tokens ||
    (headWord? tokens).any closers.contains

def skipNewlines (tokens : Tokens) : Tokens :=
  tokens.dropWhile (·.2 == .newline)

/-- Takes an unmarked word that has to come next. -/
def expect (word : String) (tokens : Tokens) : Option Tokens :=
  if headWord? tokens == some word then some tokens.tail else none

/-- Takes an operator that has to come next. -/
def expectOperator (text : String) (tokens : Tokens) : Option Tokens :=
  if isOperator text tokens then some tokens.tail else none

/-- The redirections at the start of the tokens. -/
def readRedirects : (fuel : Nat) → Tokens → List Redirect × Tokens
  | 0, tokens => ([], tokens)
  | fuel + 1, tokens =>
    match tokens with
    | (_, .redirect stream kind) :: (_, .word target) :: rest =>
      let (more, rest) := readRedirects fuel rest
      (⟨stream, kind, target⟩ :: more, rest)
    | _ => ([], tokens)

/-- The variable and the value of an assignment. -/
def assignment? (parts : Word) : Option (String × Word) :=
  let isNamed (part : Part) := part.plain?.any (·.all Token.isNamePart)
  let name := parts.takeWhile isNamed
  match parts.dropWhile isNamed, plainWord? name with
  | .text ['='] false :: value, some name =>
    if (name.toList.head?.any Token.isNameStart) then some (name, value) else none
  | _, _ => none

/-- A command without any structure: assignments, words and redirections. -/
def readSimple (line : Nat) : (fuel : Nat) → List (String × Word) → List Word → List Redirect →
    Tokens → Script × Tokens
  | 0, assignments, words, redirects, tokens =>
    (.simple line assignments.reverse words.reverse redirects.reverse, tokens)
  | fuel + 1, assignments, words, redirects, tokens =>
    match tokens with
    | (_, .redirect stream kind) :: (_, .word target) :: rest =>
      readSimple line fuel assignments words (⟨stream, kind, target⟩ :: redirects) rest
    | (_, .word parts) :: rest =>
      match words, assignment? parts with
      | [], some assigned => readSimple line fuel (assigned :: assignments) words redirects rest
      | _, _ => readSimple line fuel assignments (parts :: words) redirects rest
    | _ => (.simple line assignments.reverse words.reverse redirects.reverse, tokens)

/-- The patterns of a case, up to its bracket. -/
def readPatterns : (fuel : Nat) → Tokens → Option (List Word × Tokens)
  | 0, _ => none
  | fuel + 1, tokens =>
    match tokens with
    | (_, .word pattern) :: (_, .operator ")") :: rest => some ([pattern], rest)
    | (_, .word pattern) :: (_, .operator "|") :: rest =>
      (readPatterns fuel rest).map fun (more, rest) => (pattern :: more, rest)
    | _ => none

/-- The words at the start of the tokens. -/
def readWords : Tokens → List Word × Tokens
  | (_, .word parts) :: rest =>
    let (more, rest) := readWords rest
    (parts :: more, rest)
  | tokens => ([], tokens)

/-- A script in braces or brackets, with its redirections. -/
def grouped (apart : Bool) (body : Script) (tokens : Tokens) : Script × Tokens :=
  let (redirects, tokens) := readRedirects tokens.length tokens
  (.group apart body redirects, tokens)

mutual

/-- Commands up to the end of their list. -/
def readList : (fuel : Nat) → Tokens → Option (Script × Tokens)
  | 0, _ => none
  | fuel + 1, tokens => do
    let tokens := skipNewlines tokens
    if endsList tokens then some (.nothing, tokens)
    else
      let (first, tokens) ← readChain fuel tokens
      match tokens with
      | (_, .operator ";") :: rest =>
        let (second, rest) ← readList fuel rest
        some (.sequence first second, rest)
      | (_, .newline) :: rest =>
        let (second, rest) ← readList fuel rest
        some (.sequence first second, rest)
      | _ => if endsList tokens then some (first, tokens) else none

/-- Commands of which each depends on those before it. -/
def readChain : (fuel : Nat) → Tokens → Option (Script × Tokens)
  | 0, _ => none
  | fuel + 1, tokens => do
    let (first, rest) ← readPipe fuel tokens
    readMore fuel first rest

/-- The commands that depend on a first one. -/
def readMore : (fuel : Nat) → Script → Tokens → Option (Script × Tokens)
  | 0, _, _ => none
  | fuel + 1, first, tokens =>
    match tokens with
    | (_, .operator "&&") :: rest => do
      let (second, rest) ← readPipe fuel (skipNewlines rest)
      readMore fuel (.also false first second) rest
    | (_, .operator "||") :: rest => do
      let (second, rest) ← readPipe fuel (skipNewlines rest)
      readMore fuel (.also true first second) rest
    | _ => some (first, tokens)

/-- Commands of which each reads what the one before it prints. -/
def readPipe : (fuel : Nat) → Tokens → Option (Script × Tokens)
  | 0, _ => none
  | fuel + 1, tokens =>
    if headWord? tokens == some "!" then
      (readPipe fuel tokens.tail).map fun (body, rest) => (.negated body, rest)
    else do
      let (first, rest) ← readCommand fuel tokens
      match rest with
      | (_, .operator "|") :: rest =>
        let (second, rest) ← readPipe fuel (skipNewlines rest)
        some (.pipe first second, rest)
      | _ => some (first, rest)

def readCommand : (fuel : Nat) → Tokens → Option (Script × Tokens)
  | 0, _ => none
  | fuel + 1, tokens =>
    match headWord? tokens with
    | some "if" => do
      let (script, rest) ← readBranch fuel tokens.tail
      some (grouped false script rest)
    | some "while" => do
      let (condition, rest) ← readList fuel tokens.tail
      let (body, rest) ← readBody fuel rest
      some (grouped false (.loop false condition body) rest)
    | some "until" => do
      let (condition, rest) ← readList fuel tokens.tail
      let (body, rest) ← readBody fuel rest
      some (grouped false (.loop true condition body) rest)
    | some "for" => do
      let name ← headWord? tokens.tail
      let rest := tokens.tail.tail
      let (words, rest) :=
        if headWord? (skipNewlines rest) == some "in" then
          let (words, rest) := readWords (skipNewlines rest).tail
          (some words, rest)
        else (none, rest)
      let rest := if isOperator ";" rest then rest.tail else rest
      let (body, rest) ← readBody fuel (skipNewlines rest)
      some (grouped false (.each name words body) rest)
    | some "case" =>
      match tokens.tail with
      | (_, .word subject) :: rest => do
        let rest ← expect "in" (skipNewlines rest)
        let (script, rest) ← readCases fuel subject rest
        some (grouped false script rest)
      | _ => none
    | some "\x7b" => do
      let (body, rest) ← readList fuel tokens.tail
      some (grouped false body (← expect "\x7d" rest))
    | _ =>
      match tokens with
      | (_, .operator "(") :: rest => do
        let (body, rest) ← readList fuel rest
        some (grouped true body (← expectOperator ")" rest))
      | (line, .word _) :: _ => some (readSimple line (tokens.length + 1) [] [] [] tokens)
      | (line, .redirect _ _) :: _ =>
        let (script, rest) := readSimple line (tokens.length + 1) [] [] [] tokens
        if rest.length < tokens.length then some (script, rest) else none
      | _ => none

def readBody : (fuel : Nat) → Tokens → Option (Script × Tokens)
  | 0, _ => none
  | fuel + 1, tokens => do
    let (body, rest) ← readList fuel (← expect "do" tokens)
    some (body, ← expect "done" rest)

/-- What follows the word that starts a branch. -/
def readBranch : (fuel : Nat) → Tokens → Option (Script × Tokens)
  | 0, _ => none
  | fuel + 1, tokens => do
    let (condition, rest) ← readList fuel tokens
    let (body, rest) ← readList fuel (← expect "then" rest)
    match headWord? rest with
    | some "elif" =>
      let (otherwise, rest) ← readBranch fuel rest.tail
      some (.branch condition body otherwise, rest)
    | some "else" =>
      let (otherwise, rest) ← readList fuel rest.tail
      some (.branch condition body otherwise, ← expect "fi" rest)
    | _ => some (.branch condition body .nothing, ← expect "fi" rest)

def readCases : (fuel : Nat) → Word → Tokens → Option (Script × Tokens)
  | 0, _, _ => none
  | fuel + 1, subject, tokens => do
    let tokens := skipNewlines tokens
    if headWord? tokens == some "esac" then some (.nothing, tokens.tail)
    else
      let tokens := if isOperator "(" tokens then tokens.tail else tokens
      let (patterns, rest) ← readPatterns (tokens.length + 1) tokens
      let (body, rest) ← readList fuel rest
      let rest := if isOperator ";;" rest then rest.tail else rest
      let (otherwise, rest) ← readCases fuel subject rest
      some (.choose subject patterns body otherwise, rest)

end

def parse? (text : List Char) : Option Script := do
  let tokens ← Token.ofText? text
  match ← readList (12 * (tokens.length + 2)) tokens with
  | (script, []) => some script
  | _ => none

end Script

end CodeEditor.Shell
