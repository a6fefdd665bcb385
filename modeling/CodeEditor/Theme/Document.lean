import CodeEditor.Json.Fields
import CodeEditor.Json.Reader
import CodeEditor.Text.Split
import CodeEditor.Theme

/-! # Theme documents

A document with the wrong shape is refused. A color or weight in it that cannot be read is passed
over.
-/

namespace CodeEditor.Theme

/-- The scopes of an entry: one string or a list of them, each holding scopes between commas. -/
def scopesOf (strings : List String) : List String :=
  ((strings.flatMap (Text.splitString ',')).map Text.trimmed).filter (· ≠ "")

/-- What an entry of token colors says: its scopes, and its foreground as written. -/
structure Entry where
  scopes : List String
  foreground : Option String
  deriving DecidableEq, Repr

namespace Entry

def readScopes? : Json → Option (List String)
  | .null => some []
  | .text value => value.map fun s => scopesOf [s]
  | .list items => (items.mapM Json.text?).map scopesOf
  | _ => none

def readForeground? (document : Json) : Option (Option String) := do
  match ← Json.fields? [⟨["foreground"], true, false⟩] document with
  | [some foreground] => Json.textOrNull? foreground
  | _ => some none

def read? (document : Json) : Option Entry := do
  match ← Json.fields? [⟨["scope"], true, false⟩, ⟨["settings"], true, true⟩] document with
  | [scope, settings] =>
    let scopes ← (scope.map readScopes?).getD (some [])
    let foreground ← (settings.map readForeground?).getD (some none)
    some ⟨scopes, foreground⟩
  | _ => none

/-- The entry with its color, unless it lists no scope or has no color that can be read. -/
def tokenColor? (e : Entry) : Option TokenColor := do
  if e.scopes.isEmpty then none
  else some ⟨e.scopes, ← Color.ofHex? (← e.foreground)⟩

end Entry

/-- The colors of the editor's parts as written. -/
def readColors? : Json → Option (List (String × String))
  | .record members => members.mapM fun (name, value) => do return (← name, ← Json.text? value)
  | _ => none

/-- The fields of a theme, in the order in which a list gives them. -/
def shape : List Json.Field :=
  [⟨["name"], true, false⟩, ⟨["colors"], true, true⟩, ⟨["tokenColors"], true, true⟩,
    ⟨["fontWeight", "weight"], true, false⟩]

def optional? {α : Type} (field : Option Json) (read : Json → Option α) (missing : α) : Option α :=
  (field.map read).getD (some missing)

/-- The theme that a document describes; `fallback` names one whose document gives it no name. -/
def ofJson? (document : Json) (fallback : String) : Option Theme := do
  match ← Json.fields? shape document with
  | [name, colors, tokenColors, weight] =>
    let name ← optional? name Json.textOrNull? none
    let colors ← optional? colors readColors? []
    let entries ← optional? tokenColors (Json.listOf? Entry.read?) []
    let weight ← optional? weight Json.textOrNull? none
    let name := Text.trimmed (name.getD "")
    some
      { name := if name = "" then fallback else name
        colors := (Dictionary.ofList colors).filterMap Color.ofHex?
        tokenColors := entries.filterMap Entry.tokenColor?
        weight := (weight.bind Weight.ofName?).getD .regular }
  | _ => none

/-- Reads a theme from the text of its document. -/
def parse? (source : List Char) (fallback : String) : Option Theme := do
  ofJson? (← Json.parse? source) fallback

end CodeEditor.Theme
