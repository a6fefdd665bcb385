import CodeEditor.Text.Offset

/-! # Between the characters of a text -/

namespace CodeEditor.Text

/-- So many bytes are some of the first characters. -/
def IsBoundary (text : List Char) (byte : Nat) : Prop :=
  ∃ before after, text = before ++ after ∧ byteLength before = byte

/-- The span holds a byte and divides no character. -/
structure IsWhole (text : List Char) (s : Span) : Prop where
  start : IsBoundary text s.start
  stop : IsBoundary text s.stop
  nonempty : s.start < s.stop

end CodeEditor.Text
