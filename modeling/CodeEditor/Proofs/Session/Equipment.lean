import CodeEditor.Proofs.Library
import CodeEditor.Proofs.Session.InStep

/-! # What a session works with

Theme, grammar, library, disk and toggle are not touched by what is done to the text. Each of them is
changed by a few calls only.
-/

namespace CodeEditor.Session

structure Equipment where
  theme : Theme
  grammar : Grammar
  library : Library
  disk : Disk
  smartSubstitution : Bool

def equipment (s : Session) : Equipment :=
  ⟨s.theme, s.grammar, s.library, s.disk, s.smartSubstitution⟩

/-- The text, and what goes with it. -/
structure Sameness (s s' : Session) : Prop where
  buffer : s'.buffer = s.buffer
  text : s'.text = s.text
  selection : s'.selection = s.selection
  history : s'.history = s.history
  firstVisible : s'.firstVisible = s.firstVisible

theorem of_equipment_eq {s : Session} {e : Equipment} (h : s.equipment = e) :
    s.theme = e.theme ∧ s.grammar = e.grammar ∧ s.library = e.library ∧ s.disk = e.disk ∧
      s.smartSubstitution = e.smartSubstitution := by
  subst h
  exact ⟨rfl, rfl, rfl, rfl, rfl⟩

theorem equipment_rehighlight (s : Session) : s.rehighlight.equipment = s.equipment := rfl

theorem equipment_start (library : Library) (disk : Disk) (options : EditorOptions) :
    (start library disk options).equipment =
      let t := library.loadPreferred disk .theme
      let g := t.1.loadPreferred t.2.1 .grammar
      ⟨t.2.2.getD (.plain ResourceKind.theme.standard),
        g.2.2.getD (.empty ResourceKind.grammar.standard), g.1, g.2.1,
        (g.1.settings.bool? smartSubstitutionSetting).getD false⟩ := by
  unfold start
  rw [equipment_rehighlight]
  rfl

/-! ## Changes of the text -/

theorem equipment_edit (s : Session) (span : Span) (text : List Char) (intent? : Option Intent)
    (cursor? : Option Nat) : (s.edit span text intent? cursor?).1.equipment = s.equipment := by
  unfold edit
  simp only
  split <;> rfl

theorem equipment_applyStep (s : Session) (step? : Option (History × Replacement)) :
    (s.applyStep step?).1.equipment = s.equipment := by
  cases step? with
  | none => rfl
  | some step => exact equipment_edit _ step.2.span step.2.text none (some step.2.cursor)

theorem equipment_gutterRows (s : Session) (rows : Nat) (wrap : Option Nat) :
    (s.stepAside (.gutterRows rows wrap)).equipment = s.equipment := by
  rw [stepAside, gutterRows?]
  cases s.gutter.layout? s.buffer ⟨s.firstVisible, rows, wrap⟩ <;> rfl

theorem equipment_scrollTo (s : Session) (position : Nat) :
    (s.scrollTo position).1.equipment = s.equipment := by
  unfold scrollTo
  simp only
  split <;> rfl

theorem equipment_step_cases (s : Session) (part : Part) :
    (s.step part).equipment = s.equipment ∨ (∃ name, part = .aside (.selectTheme name)) ∨
      (∃ name, part = .aside (.selectGrammar name)) ∨
      (∃ enabled, part = .aside (.setSmartSubstitution enabled)) ∨
      (∃ file, part = .aside (.saveFile file)) ∨
      ∃ library disk, part = .aside (.outside library disk) := by
  cases part with
  | edit span text intent cursor? => exact .inl (s.equipment_edit span text _ cursor?)
  | undo => exact .inl (s.equipment_applyStep s.history.undo?)
  | redo => exact .inl (s.equipment_applyStep s.history.redo?)
  | setText text => exact .inl rfl
  | aside call =>
    cases call with
    | selectTheme name => exact .inr (.inl ⟨name, rfl⟩)
    | selectGrammar name => exact .inr (.inr (.inl ⟨name, rfl⟩))
    | setSmartSubstitution enabled => exact .inr (.inr (.inr (.inl ⟨enabled, rfl⟩)))
    | saveFile file => exact .inr (.inr (.inr (.inr (.inl ⟨file, rfl⟩))))
    | outside library disk => exact .inr (.inr (.inr (.inr (.inr ⟨library, disk, rfl⟩))))
    | scrollTo position => exact .inl (s.equipment_scrollTo position)
    | gutterRows rows wrap => exact .inl (s.equipment_gutterRows rows wrap)
    | _ => exact .inl rfl

/-! ## Choosing a theme or grammar -/

theorem selectTheme_cases (s : Session) (name : String) :
    (∃ theme library disk, s.library.Loads s.disk .theme name theme library disk ∧
      (s.selectTheme name).2 = true ∧
      (s.selectTheme name).1.equipment = ⟨theme, s.grammar, library, disk, s.smartSubstitution⟩) ∨
    (∀ theme, ¬ s.library.StandsFor s.disk .theme name theme) ∧ s.selectTheme name = (s, false) := by
  unfold selectTheme
  rcases hload : s.library.load s.disk .theme name with ⟨library, disk, _ | theme⟩
  · right
    refine ⟨fun theme h => ?_, rfl⟩
    obtain ⟨l', d', hfound, -⟩ := Library.load_of_standsFor h
    rw [hload] at hfound
    cases hfound
  · left
    exact ⟨theme, library, disk, Library.loads_of_load hload, rfl, rfl⟩

theorem selectGrammar_cases (s : Session) (name : String) :
    (s.library.isCurrent .grammar name = false ∧
      ∃ grammar library disk, s.library.Loads s.disk .grammar name grammar library disk ∧
        (s.selectGrammar name).2 = true ∧
        (s.selectGrammar name).1.equipment =
          ⟨s.theme, grammar, library, disk, s.smartSubstitution⟩) ∨
    (s.library.isCurrent .grammar name = true ∨
      ∀ grammar, ¬ s.library.StandsFor s.disk .grammar name grammar) ∧
        s.selectGrammar name = (s, false) := by
  unfold selectGrammar
  cases hcurrent : s.library.isCurrent .grammar name with
  | true => exact .inr ⟨.inl rfl, rfl⟩
  | false =>
    simp only [Bool.false_eq_true, if_false]
    rcases hload : s.library.load s.disk .grammar name with ⟨library, disk, _ | grammar⟩
    · right
      refine ⟨.inr fun grammar h => ?_, rfl⟩
      obtain ⟨l', d', hfound, -⟩ := Library.load_of_standsFor h
      rw [hload] at hfound
      cases hfound
    · left
      exact ⟨trivial, grammar, library, disk, Library.loads_of_load hload, rfl, rfl⟩

theorem grammar_selectTheme (s : Session) (name : String) :
    (s.selectTheme name).1.grammar = s.grammar := by
  obtain ⟨_, _, _, -, -, hequipment⟩ | ⟨-, same⟩ := s.selectTheme_cases name
  · exact (of_equipment_eq hequipment).2.1
  · rw [same]

theorem directories_selectTheme (s : Session) (name : String) :
    (s.selectTheme name).1.library.directories = s.library.directories := by
  obtain ⟨_, _, _, loads, -, hequipment⟩ | ⟨-, same⟩ := s.selectTheme_cases name
  · rw [(of_equipment_eq hequipment).2.2.1]
    exact loads.directories
  · rw [same]

theorem directories_selectGrammar (s : Session) (name : String) :
    (s.selectGrammar name).1.library.directories = s.library.directories := by
  obtain ⟨-, _, _, _, loads, -, hequipment⟩ | ⟨-, same⟩ := s.selectGrammar_cases name
  · rw [(of_equipment_eq hequipment).2.2.1]
    exact loads.directories
  · rw [same]

theorem sameness_selectTheme (s : Session) (name : String) :
    s.Sameness (s.selectTheme name).1 := by
  unfold selectTheme
  split
  · exact ⟨rfl, rfl, rfl, rfl, rfl⟩
  · refine ⟨rfl, ?_, rfl, rfl, rfl⟩
    exact Highlight.text_pass _ _ _ _

theorem sameness_selectGrammar (s : Session) (name : String) :
    s.Sameness (s.selectGrammar name).1 := by
  unfold selectGrammar
  split
  · exact ⟨rfl, rfl, rfl, rfl, rfl⟩
  · split
    · exact ⟨rfl, rfl, rfl, rfl, rfl⟩
    · refine ⟨rfl, ?_, rfl, rfl, rfl⟩
      exact Highlight.text_pass _ _ _ _

end CodeEditor.Session
