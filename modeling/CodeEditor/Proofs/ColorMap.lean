import CodeEditor.Proofs.Dictionary
import CodeEditor.Proofs.Layers

/-! # The colors of characters

A map for a grammar has a color for the scope of each rule. After a pass with it a character has the
color of the scope of the last rule that covers it; without such a rule it has that of the editor.
-/

namespace CodeEditor

/-! ## Maps -/

theorem Grammar.mem_scopes (g : Grammar) (scope : String) :
    scope ∈ g.scopes ↔ ∃ r ∈ g.rules, r.scope = scope := by
  rw [scopes, List.mem_eraseDups, List.mem_map]

namespace ColorMap

theorem find?_ofScopes (theme : Theme) (scopes : List String) (scope : String) :
    (ofScopes theme scopes).find? scope =
      if scope ∈ scopes then some (resolve theme scope) else none :=
  Dictionary.find?_ofList_map (resolve theme) scopes scope

theorem find?_ofGrammar (theme : Theme) {g : Grammar} {r : Rule} (h : r ∈ g.rules) :
    (ofGrammar theme g).find? r.scope = some (resolve theme r.scope) := by
  have hscope : r.scope ∈ g.scopes := (g.mem_scopes r.scope).mpr ⟨r, h, rfl⟩
  rw [ofGrammar, find?_ofScopes, if_pos (List.mem_append_right _ hscope)]

end ColorMap

/-! ## The rule that counts -/

variable [Engine]

/-- The rule is a pattern with a match over the character. -/
def Rule.Covers (text : List Char) (index : Nat) (r : Rule) : Prop :=
  r.isPlaceholder = false ∧ ∃ p, r.compile = .ok p ∧ ∃ s ∈ Engine.matchesIn p text,
    s.start ≤ Text.byteOffset text index ∧ Text.byteOffset text (index + 1) ≤ s.stop

/-- The color that a character of a text has by a grammar in a theme. -/
inductive Grammar.Colors (g : Grammar) (theme : Theme) (text : List Char) (index : Nat) : Color → Prop
  | last {before : List Rule} {r : Rule} {after : List Rule} (rules : g.rules = before ++ r :: after)
      (covers : r.Covers text index) (later : ∀ r' ∈ after, ¬ r'.Covers text index) :
      g.Colors theme text index (ColorMap.resolve theme r.scope)
  | plain (uncovered : ∀ r ∈ g.rules, ¬ r.Covers text index) :
      g.Colors theme text index theme.foreground

variable {text : List Char} {index : Nat} {colors : ColorMap} {color : Color}

namespace Rule

variable {r : Rule}

theorem paint?_of_covers (inside : index < text.length) (h : r.Covers text index)
    (hcolor : colors.find? r.scope = some color) :
    r.paint? colors text (Text.byteOffset text index) = some color := by
  obtain ⟨hplaceholder, p, hp, s, hs, hstart, hstop⟩ := h
  have hlayer : r.layer? colors text = some (color, Engine.matchesIn p text) := by
    simp [layer?, hplaceholder, hp, hcolor]
  have hpast := Text.byteOffset_lt inside
  have hreach : (Engine.matchesIn p text).any fun s =>
      s.start ≤ Text.byteOffset text index && Text.byteOffset text index < s.stop := by
    rw [List.any_eq_true]
    refine ⟨s, hs, ?_⟩
    simp only [Bool.and_eq_true, decide_eq_true_iff]
    omega
  rw [paint?, hlayer]
  exact if_pos hreach

theorem covers_of_paint? (h : r.paint? colors text (Text.byteOffset text index) = some color) :
    r.Covers text index ∧ colors.find? r.scope = some color := by
  unfold paint? at h
  split at h
  · cases h
  · next color' spans hlayer =>
    split at h
    · next hreach =>
      cases h
      unfold layer? at hlayer
      split at hlayer
      · cases hlayer
      · next hplaceholder =>
        split at hlayer
        · cases hlayer
        · next p hp =>
          obtain ⟨_, hcolor, hpair⟩ := Option.map_eq_some_iff.mp hlayer
          cases hpair
          obtain ⟨s, hs, hbyte⟩ := List.any_eq_true.mp hreach
          simp only [Bool.and_eq_true, decide_eq_true_iff] at hbyte
          have hwhole := Engine.whole p text s hs
          refine ⟨⟨by simpa using hplaceholder, p, hp, s, hs, hbyte.1, ?_⟩, hcolor⟩
          exact Text.byteOffset_succ_le hwhole.stop hbyte.2
    · cases h

end Rule

theorem Grammar.colors_paint? (g : Grammar) (theme : Theme) (inside : index < text.length) :
    g.Colors theme text index
      ((g.paint? (.ofGrammar theme g) text (Text.byteOffset text index)).getD theme.foreground) := by
  have unpainted : ∀ r ∈ g.rules,
      r.paint? (.ofGrammar theme g) text (Text.byteOffset text index) = none →
        ¬ r.Covers text index := by
    intro r hr hnone hcovers
    rw [Rule.paint?_of_covers inside hcovers (ColorMap.find?_ofGrammar theme hr)] at hnone
    cases hnone
  unfold Grammar.paint?
  cases hlast : (g.rules.filterMap
      (Rule.paint? (.ofGrammar theme g) text (Text.byteOffset text index))).getLast? with
  | none =>
    rw [List.getLast?_eq_none_iff, List.filterMap_eq_nil_iff] at hlast
    exact .plain fun r hr => unpainted r hr (hlast r hr)
  | some color =>
    obtain ⟨_, hpainted⟩ := List.getLast?_eq_some_iff.mp hlast
    obtain ⟨front, back, hrules, -, hback⟩ := List.filterMap_eq_append_iff.mp hpainted
    obtain ⟨skipped, r, after, rfl, -, hpaint, hafter⟩ := List.filterMap_eq_cons_iff.mp hback
    rw [← List.append_assoc] at hrules
    obtain ⟨hcovers, hcolor⟩ := Rule.covers_of_paint? hpaint
    have hr : r ∈ g.rules := by simp [hrules]
    rw [ColorMap.find?_ofGrammar theme hr] at hcolor
    cases hcolor
    refine .last hrules hcovers ?_
    intro r' hr'
    exact unpainted r' (by simp [hrules, hr']) (List.filterMap_eq_nil_iff.mp hafter r' hr')

namespace Highlight

theorem colors_once {t : StyledText} (h : t.Sound) (g : Grammar) (theme : Theme) {base : Attributes}
    (hbase : base.foreground = theme.foreground) (inside : index < t.text.length) :
    ∃ shown, (once t g (.ofGrammar theme g) base).1.attributesAt? (Text.byteOffset t.text index) =
        some shown ∧
      g.Colors theme t.text index shown.foreground ∧ shown.font.weight = base.font.weight := by
  have hbyte : Text.byteOffset t.text index < t.byteLength :=
    (Text.byteOffset_lt inside).trans_le (Text.byteOffset_le t.text (index + 1))
  obtain ⟨shown, hshown, halike⟩ := bytes_once h g (.ofGrammar theme g) base hbyte
  refine ⟨shown, hshown, ?_, halike.weight⟩
  rw [halike.foreground, hbase]
  exact g.colors_paint? theme inside

end Highlight

end CodeEditor
