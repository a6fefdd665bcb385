import CodeEditor.Engine
import CodeEditor.Pattern.Reader
import CodeEditor.Proofs.Pattern.Place

/-! # The engine of the patterns -/

namespace CodeEditor.Pattern

instance : Engine where
  Pattern := Pattern
  Rejection := Rejection
  parse := parse
  matchesIn := matchesIn
  whole := isWhole_matchesIn

end CodeEditor.Pattern
