/-! # The command language of tools

Tools may be scripts. This is the part of the command language that is understood.
-/

namespace CodeEditor.Shell

/-- A part of a word. Where it is quoted, its value is not split at blanks. -/
inductive Part where
  | text (chars : List Char) (quoted : Bool)
  /-- The value of a variable, or of another text when that is empty. -/
  | parameter (name : String) (fallback : Option (List Char)) (quoted : Bool)
  /-- The value of a calculation. -/
  | arithmetic (source : List Char) (quoted : Bool)
  /-- What other commands print. -/
  | output (source : List Char) (quoted : Bool)
  deriving DecidableEq, Repr, Inhabited

/-- A text without any marks. -/
def Part.plain? : Part → Option (List Char)
  | text chars false => some chars
  | _ => none

abbrev Word := List Part

/-- What a stream is connected to. -/
inductive Redirection where
  | input
  | output
  | append
  | duplicate
  deriving DecidableEq, Repr

/-- Connects the stream of a number to the file or stream that a word names. -/
structure Redirect where
  stream : Nat
  kind : Redirection
  target : Word
  deriving DecidableEq, Repr

inductive Script where
  | nothing
  /-- Assignments, then the words of a command, whose first one stands in a line. -/
  | simple (line : Nat) (assignments : List (String × Word)) (words : List Word)
      (redirects : List Redirect)
  | sequence (first second : Script)
  /-- The second is run if the first succeeds, or if it fails when `onFailure` is set. -/
  | also (onFailure : Bool) (first second : Script)
  | negated (body : Script)
  /-- What the first prints is the input of the second. -/
  | pipe (first second : Script)
  | branch (condition body otherwise : Script)
  /-- Repeated while the condition succeeds, or fails when `onFailure` is set. -/
  | loop (onFailure : Bool) (condition body : Script)
  /-- Run for every word, or for every argument when there are no words. -/
  | each (name : String) (words : Option (List Word)) (body : Script)
  /-- The body is run if the word has one of the patterns. -/
  | choose (word : Word) (patterns : List Word) (body otherwise : Script)
  /-- Variables that a body changes are not changed outside when it is `apart`. -/
  | group (apart : Bool) (body : Script) (redirects : List Redirect)
  deriving Repr, Inhabited

end CodeEditor.Shell
