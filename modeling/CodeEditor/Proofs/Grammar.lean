import CodeEditor.Grammar.Document
import CodeEditor.Proofs.Cache
import CodeEditor.Proofs.Json.Compact

/-! # Grammar documents

A grammar that is written, on one line or over several, is read back as it was, but for a blank name.
-/

namespace CodeEditor

/-! ## Writing -/

/-- How a document is laid out. -/
inductive Json.Layout where
  | oneLine
  | lines
  deriving DecidableEq, Repr

def Json.write (layout : Json.Layout) (document : Json) : List Char :=
  match layout with
  | .oneLine => document.compact
  | .lines => document.pretty 0

theorem Json.parse?_write {document : Json} (h : document.Legible) (layout : Json.Layout) :
    Json.parse? (document.write layout) = some document := by
  cases layout with
  | oneLine => exact Json.parse?_compact h
  | lines => exact Json.parse?_pretty h 0

namespace Rule

def toJson (r : Rule) : Json :=
  .record [(some "name", .text (some r.scope)), (some "match", .text (some r.expression))]

theorem legible_toJson (r : Rule) : r.toJson.Legible := by
  apply Json.Legible.record
  simp [Json.Legible.text]

theorem read?_toJson (r : Rule) : read? r.toJson = some r := by
  rfl

end Rule

/-! ## Reading back -/

namespace Grammar

theorem toJson_eq (g : Grammar) :
    g.toJson =
      .record [(some "name", .text (some g.name)), (some "scopeName", .text (some g.scopeName)),
        (some "patterns", .list (g.rules.map Rule.toJson))] := rfl

theorem legible_toJson (g : Grammar) : g.toJson.Legible := by
  have hrules : Json.Legible (.list (g.rules.map Rule.toJson)) := by
    apply Json.Legible.list
    simp [Rule.legible_toJson]
  rw [toJson_eq]
  apply Json.Legible.record
  simp [Json.Legible.text, hrules]

theorem listOf?_toJson (rules : List Rule) :
    Json.listOf? Rule.read? (.list (rules.map Rule.toJson)) = some rules := by
  show (rules.map Rule.toJson).mapM Rule.read? = some rules
  induction rules with
  | nil => rfl
  | cons r rules ih =>
    rw [List.map_cons, List.mapM_cons, ih, Rule.read?_toJson]
    rfl

theorem fields?_toJson (g : Grammar) :
    Json.fields? shape g.toJson =
      some [some (.text (some g.name)), some (.text (some g.scopeName)),
        some (.list (g.rules.map Rule.toJson))] := by
  rfl

/-- The grammar under the fallback, if it has no name itself. -/
def named (g : Grammar) (fallback : String) : Grammar :=
  if Text.isAllBlank g.name then { g with name := fallback } else g

theorem named_eq_self {g : Grammar} (h : Text.isAllBlank g.name = false) (fallback : String) :
    g.named fallback = g := by
  simp [named, h]

theorem isAllBlank_named (g : Grammar) {fallback : String}
    (h : Text.isAllBlank fallback = false) : Text.isAllBlank (g.named fallback).name = false := by
  unfold named
  split
  · exact h
  · next hname => simpa using hname

theorem rules_named (g : Grammar) (fallback : String) : (g.named fallback).rules = g.rules := by
  unfold named
  split <;> rfl

theorem ofJson?_toJson (g : Grammar) (fallback : String) :
    ofJson? g.toJson fallback = some (g.named fallback) := by
  unfold ofJson?
  rw [fields?_toJson]
  simp [Json.text?, listOf?_toJson, named]
  split <;> rfl

theorem parse?_write (g : Grammar) (fallback : String) (layout : Json.Layout) :
    parse? (g.toJson.write layout) fallback = some (g.named fallback) := by
  unfold parse?
  rw [Json.parse?_write g.legible_toJson]
  exact ofJson?_toJson g fallback

/-- A grammar that is written is read back with the fallback in place of a blank name. If the fallback
is not blank, then writing and reading once more changes nothing, whatever the fallback is then, and
patterns kept for the one grammar are kept for the other. -/
theorem written_grammar_reads_back (g : Grammar) (fallback : String) (layout : Json.Layout) :
    ∃ once, parse? (g.toJson.write layout) fallback = some once ∧
      once = (if Text.isAllBlank g.name then { g with name := fallback } else g) ∧
      (Text.isAllBlank fallback = false → ∀ layout' fallback', ∃ twice,
        parse? (once.toJson.write layout') fallback' = some twice ∧ twice = once ∧
          (∀ h t colors base, (Highlighter.highlight h t once colors base).1.grammar? = some twice) ∧
          twice.rules.map Rule.isPlaceholder = g.rules.map Rule.isPlaceholder ∧
          twice.scopes = g.scopes) := by
  refine ⟨g.named fallback, parse?_write g fallback layout, rfl, ?_⟩
  intro hfallback layout' fallback'
  have hname := g.isAllBlank_named hfallback
  refine ⟨g.named fallback, ?_, rfl, ?_, ?_, ?_⟩
  · rw [parse?_write, named_eq_self hname]
  · intro h t colors base
    rfl
  · rw [rules_named]
  · unfold scopes
    rw [rules_named]

theorem written_grammar_reads_back_unnamed :
    let g : Grammar := ⟨" ", "source.x", [⟨"Strings", "\"\\≠\u0001\""⟩, ⟨"Numbers", "\t"⟩]⟩
    Text.isAllBlank "named" = false ∧
      ∃ once, parse? (g.toJson.write .lines) "named" = some once ∧
        once = { g with name := "named" } ∧
        ∃ twice, parse? (once.toJson.write .oneLine) "" = some twice ∧ twice = once ∧
          twice.rules.map Rule.isPlaceholder = [false, true] ∧ twice.scopes = ["Strings", "Numbers"] := by
  intro g
  have hfallback : Text.isAllBlank "named" = false := by decide
  have hblank : Text.isAllBlank g.name = true := by decide
  obtain ⟨once, hread, honce, hagain⟩ := written_grammar_reads_back g "named" .lines
  obtain ⟨twice, hread', htwice, -, hplaceholders, hscopes⟩ := hagain hfallback .oneLine ""
  rw [if_pos hblank] at honce
  refine ⟨hfallback, once, hread, honce, twice, hread', htwice, ?_, ?_⟩
  · rw [hplaceholders]
    decide
  · rw [hscopes]
    decide

end Grammar

end CodeEditor
