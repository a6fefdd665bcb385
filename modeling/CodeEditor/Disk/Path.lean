import CodeEditor.Text.Split

/-! # Paths

A path is a string whose names stand between slashes. It is only looked at here, not looked up.
-/

namespace CodeEditor

structure Path where
  text : String
  deriving DecidableEq, Repr, Inhabited

instance : ToString Path := ⟨Path.text⟩

namespace Path

/-- A path from the top of the disk, not from the working directory. -/
def isAbsolute (p : Path) : Bool := p.text.toList.head? == some '/'

/-- The path `right`, taken from `left`. An absolute path is the same from everywhere. -/
def join (left right : Path) : Path :=
  if right.isAbsolute || left.text == "" then right
  else if left.text.toList.getLast? == some '/' then ⟨left.text ++ right.text⟩
  else ⟨left.text ++ "/" ++ right.text⟩

/-- The names on the way, in order. A slash at the end asks for a directory, as a dot does. -/
def names (p : Path) : List String :=
  let names := (Text.splitString '/' p.text).filter (· ≠ "")
  if p.text.toList.getLast? == some '/' then names ++ ["."] else names

/-- Drops slashes from the end of a text given last character first, and names that are a dot and
follow a slash. -/
def dropSlashes : List Char → List Char
  | '/' :: rest => dropSlashes rest
  | '.' :: '/' :: rest => dropSlashes rest
  | backwards => backwards

/-- The text without slashes and dots that add nothing at its end, split into what stands before the
last name, with the slash, and this name. -/
def splitLast (p : Path) : List Char × List Char :=
  let backwards := dropSlashes p.text.toList.reverse
  ((backwards.dropWhile (· != '/')).reverse, (backwards.takeWhile (· != '/')).reverse)

/-- The last name, unless it only says where to go. -/
def lastName? (p : Path) : Option String :=
  match p.splitLast.2 with
  | [] => none
  | ['.'] => none
  | ['.', '.'] => none
  | name => some (String.ofList name)

/-- The path without its last name; none for the top and for the empty path. -/
def parent? (p : Path) : Option Path :=
  match p.splitLast with
  | (_, []) => none
  | (before, _) =>
    let before' := (dropSlashes before.reverse).reverse
    some ⟨String.ofList (if before'.isEmpty && !before.isEmpty then ['/'] else before')⟩

/-- A name as its stem and the extension after its last dot. A dot at the start begins no
extension. -/
def splitExtension (name : String) : String × Option String :=
  let backwards := name.toList.reverse
  let extension := backwards.takeWhile (· != '.')
  match backwards.dropWhile (· != '.') with
  | '.' :: c :: rest => (String.ofList (c :: rest).reverse, some (String.ofList extension.reverse))
  | _ => (name, none)

/-- The path with another extension for its last name. -/
def withExtension (p : Path) (extension : String) : Path :=
  match p.lastName? with
  | none => p
  | some name =>
    ⟨String.ofList p.splitLast.1 ++ (splitExtension name).1 ++ "." ++ extension⟩

end Path

end CodeEditor
