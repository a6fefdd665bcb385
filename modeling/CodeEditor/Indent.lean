import CodeEditor.Text.Blank
import CodeEditor.Text.Class

/-! # Indentation of a new line -/

namespace CodeEditor.Indent

/-- What a block is indented by. -/
def unit : List Char := [' ', ' ']

/-- The words that open a block at the end of a line. -/
def openers : List String := ["then", "do", "repeat", "case"]

/-- A character that can be part of the same word as a letter. -/
def isWordPart (c : Char) : Bool := Text.isAlphanumeric c || c == '_'

/-- The spaces and tabs at the start of a line. -/
def leading (line : List Char) : List Char := line.takeWhile fun c => c == ' ' || c == '\t'

/-- The text, given last character first, ends with the word in some case of its ASCII letters. -/
def endsWithWord (backwards : List Char) (word : List Char) : Bool :=
  let tail := backwards.take word.length
  tail.map Char.toLower == word.reverse && !(backwards.drop word.length).head?.any isWordPart

/-- The last word of the line, blanks after it apart, opens a block. -/
def opensBlock (line : List Char) : Bool :=
  let backwards := line.reverse.dropWhile Text.isBlank
  openers.any fun word => endsWithWord backwards word.toList

/-- The indentation of a line after this one. -/
def after (line : List Char) : List Char :=
  if opensBlock line then leading line ++ unit else leading line

end CodeEditor.Indent
