import CodeEditor.Pattern.Ends
import CodeEditor.Pattern.Search
import CodeEditor.Span

/-! # The matches of a pattern in a text -/

namespace CodeEditor.Pattern

/-- How many ways a search may abandon before it gives up. -/
def searchLimit : Nat := 1000000

/-- Matches a pattern that starts at a place; `regular` says that it is. -/
def matchAt (pattern : Pattern) (regular : Bool) (p : Place) (left : Nat) : Outcome :=
  if regular then
    match pattern.ends p with
    | stop :: _ => .found stop [] left
    | [] => .failed left
  else pattern.search p [] left .found

/-- The matches that take at least one character, from left to right. Each starts at `resume` or
later, where the one before it ended, and an empty match only moves the search on. A search that
gives up ends them all. -/
def scan (pattern : Pattern) (regular : Bool) (resume left : Nat) (before : List Char)
    (byte : Nat) : List Char → List Span
  | [] => []
  | c :: rest =>
    let goOn (resume left : Nat) :=
      scan pattern regular resume left (c :: before) (byte + c.utf8Size) rest
    if byte < resume then goOn resume left
    else
      match matchAt pattern regular ⟨before, c :: rest, byte⟩ left with
      | .found stop _ _ =>
        if byte < stop.byte then ⟨byte, stop.byte⟩ :: goOn stop.byte searchLimit
        else goOn resume searchLimit
      | .failed left => goOn resume left
      | .gaveUp => []

/-- The spans of bytes that a pattern matches in a text. -/
def matchesIn (pattern : Pattern) (text : List Char) : List Span :=
  scan pattern pattern.isRegular 0 searchLimit [] 0 text

end CodeEditor.Pattern
