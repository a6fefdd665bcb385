import CodeEditor.Text.Blank

/-! # Grammars

A grammar is an ordered list of rules. Each names a scope and the expression whose matches have it.
-/

namespace CodeEditor

structure Rule where
  scope : String
  expression : String
  deriving DecidableEq, Repr

namespace Rule

/-- A rule without an expression only reserves its scope. -/
def isPlaceholder (r : Rule) : Bool := Text.isAllBlank r.expression

end Rule

/-- Where matches overlap, the later rule counts. -/
structure Grammar where
  name : String
  scopeName : String
  rules : List Rule
  deriving DecidableEq, Repr, Inhabited

namespace Grammar

/-- The grammar of this name that has no rules. -/
def empty (name : String) : Grammar := ⟨name, "", []⟩

/-- The scopes that the rules name, each once, in the order of their first use. -/
def scopes (g : Grammar) : List String := (g.rules.map (·.scope)).eraseDups

end Grammar

end CodeEditor
