import CodeEditor.Grammar
import CodeEditor.Theme

/-! # Colors by scope -/

namespace CodeEditor

/-- The foreground of each scope that has one. -/
abbrev ColorMap := Dictionary Color

namespace ColorMap

/-- The scopes that every theme is asked for. -/
def knownScopes : List String :=
  ["Functions", "Keywords", "Numbers", "Strings", "Operators", "Brackets", "Comments",
    "Preprocessor Statements", "Backquotes", "Namespace", "Symbols", "Units"]

/-- The color that a theme gives to a scope: its foreground when it has none for it. -/
def resolve (theme : Theme) (scope : String) : Color :=
  (theme.tokenColor? scope).getD theme.foreground

def ofScopes (theme : Theme) (scopes : List String) : ColorMap :=
  .ofList (scopes.map fun scope => (scope, resolve theme scope))

def ofTheme (theme : Theme) : ColorMap := ofScopes theme knownScopes

/-- The colors of the known scopes and of those that a grammar names. -/
def ofGrammar (theme : Theme) (grammar : Grammar) : ColorMap :=
  ofScopes theme (knownScopes ++ grammar.scopes)

end ColorMap

end CodeEditor
