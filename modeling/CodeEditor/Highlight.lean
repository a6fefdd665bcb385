import CodeEditor.ColorMap
import CodeEditor.Engine
import CodeEditor.StyledText

/-! # Highlighting

A pass gives all of a text its base attributes and then paints the matches of each rule, in the order
of the grammar, in the color of its scope.
-/

namespace CodeEditor

variable [Engine]

/-- A rule whose expression is no pattern. -/
structure RuleError where
  scope : String
  cause : Engine.Rejection
  deriving DecidableEq

def RuleError.message (e : RuleError) : String :=
  "Invalid pattern for scope '" ++ e.scope ++ "'"

def Rule.compile (r : Rule) : Except RuleError Engine.Pattern :=
  match Engine.parse r.expression.toList with
  | .ok p => .ok p
  | .error cause => .error ⟨r.scope, cause⟩

namespace Highlight

structure Report where
  /-- How many matches were painted. -/
  painted : Nat
  /-- How many patterns have a scope without a color. -/
  skipped : Nat
  /-- The rules whose expressions are no patterns, in their order. -/
  errors : List RuleError
  deriving DecidableEq

namespace Report

def empty : Report := ⟨0, 0, []⟩

instance : Inhabited Report := ⟨empty⟩

def invalid (r : Report) : Nat := r.errors.length

end Report

/-- The patterns of a grammar by scope, and the rules that have none. -/
structure Compiled where
  patterns : List (String × Engine.Pattern)
  errors : List RuleError
  deriving DecidableEq

/-- Compiles the rules that are not placeholders. -/
def compile (g : Grammar) : Compiled :=
  let rules := g.rules.filter (!·.isPlaceholder)
  { patterns := rules.filterMap fun r => r.compile.toOption.map (r.scope, ·)
    errors := rules.filterMap fun r =>
      match r.compile with
      | .ok _ => none
      | .error e => some e }

/-- What to paint for one pattern; none when its scope has no color. -/
def paints (colors : ColorMap) (text : List Char) (pattern : String × Engine.Pattern) :
    Option (List Restyle) :=
  (colors.find? pattern.1).map fun color =>
    (Engine.matchesIn pattern.2 text).map fun s => .foreground s color

def pass (compiled : Compiled) (t : StyledText) (colors : ColorMap) (base : Attributes) :
    StyledText × Report :=
  let found := compiled.patterns.map (paints colors t.text)
  let painted := (found.filterMap id).flatten
  (t.restyle (.attributes ⟨0, t.byteLength⟩ base :: painted),
    ⟨painted.length, found.countP Option.isNone, compiled.errors⟩)

def once (t : StyledText) (g : Grammar) (colors : ColorMap) (base : Attributes) :
    StyledText × Report :=
  pass (compile g) t colors base

end Highlight

/-- Keeps the patterns of the grammar that it used last. -/
structure Highlighter where
  compiled : Option (Grammar × Highlight.Compiled)
  deriving DecidableEq

namespace Highlighter

def new : Highlighter := ⟨none⟩

instance : Inhabited Highlighter := ⟨new⟩

/-- Forgets the patterns. -/
def invalidate (_ : Highlighter) : Highlighter := new

def grammar? (h : Highlighter) : Option Grammar := h.compiled.map (·.1)

/-- The patterns of a grammar, compiled unless they are kept. -/
def patternsFor (h : Highlighter) (g : Grammar) : Highlight.Compiled :=
  match h.compiled with
  | some (kept, compiled) => if kept = g then compiled else Highlight.compile g
  | none => Highlight.compile g

/-- A pass, after which the patterns of its grammar are kept. -/
def highlight (h : Highlighter) (t : StyledText) (g : Grammar) (colors : ColorMap)
    (base : Attributes) : Highlighter × StyledText × Highlight.Report :=
  let compiled := h.patternsFor g
  (⟨some (g, compiled)⟩, Highlight.pass compiled t colors base)

end Highlighter

end CodeEditor
