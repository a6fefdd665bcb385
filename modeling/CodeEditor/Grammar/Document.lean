import CodeEditor.Grammar
import CodeEditor.Json.Fields
import CodeEditor.Json.Reader

/-! # Grammar documents -/

namespace CodeEditor

/-- A rule is a record of `name` and `match`; without the second it is a placeholder. -/
def Rule.read? (document : Json) : Option Rule := do
  match ← Json.fields? [⟨["name"], false, false⟩, ⟨["match"], true, true⟩] document with
  | [some scope, expression] =>
    some ⟨← Json.text? scope, ← (expression.map Json.text?).getD (some "")⟩
  | _ => none

namespace Grammar

/-- The fields of a grammar, in the order in which a list gives them. -/
def shape : List Json.Field :=
  [⟨["name"], true, true⟩, ⟨["scopeName"], true, true⟩, ⟨["patterns"], true, true⟩]

/-- The grammar that a document describes; `fallback` names one whose name is blank. -/
def ofJson? (document : Json) (fallback : String) : Option Grammar := do
  match ← Json.fields? shape document with
  | [name, scopeName, rules] =>
    let name ← (name.map Json.text?).getD (some "")
    let scopeName ← (scopeName.map Json.text?).getD (some "")
    let rules ← (rules.map (Json.listOf? Rule.read?)).getD (some [])
    some ⟨if Text.isAllBlank name then fallback else name, scopeName, rules⟩
  | _ => none

/-- Reads a grammar from the text of its document. -/
def parse? (source : List Char) (fallback : String) : Option Grammar := do
  ofJson? (← Json.parse? source) fallback

def toJson (g : Grammar) : Json :=
  .record
    [(some "name", .text (some g.name)), (some "scopeName", .text (some g.scopeName)),
      (some "patterns", .list (g.rules.map fun r =>
        .record [(some "name", .text (some r.scope)), (some "match", .text (some r.expression))]))]

end Grammar

end CodeEditor
