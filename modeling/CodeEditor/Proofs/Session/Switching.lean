import CodeEditor.Proofs.Session.Refusal

/-! # Choosing themes and grammars

A theme or grammar that is chosen by name takes the place of the one before it, with all that follows
from it, or nothing changes. The name that the library holds for the current grammar is the one under
which that grammar was loaded, so a grammar is passed over only when it is there already.
-/

namespace CodeEditor.Session

/-! ## Where the grammar comes from -/

/-- What a grammar was loaded from. -/
structure Origin where
  library : Library
  disk : Disk
  name : String

/-- The origin of the grammar that a session starts with. -/
def startOrigin? (library : Library) (disk : Disk) : Option Origin :=
  let (library, disk, _) := library.loadPreferred disk .theme
  (library.firstFound? disk .grammar (library.choices .grammar)).map (⟨library, disk, ·⟩)

/-- The origin of the grammar after a part, given the one before it. -/
def origin? (s : Session) (before? : Option Origin) : Part → Option Origin
  | .aside (.selectGrammar name) =>
    if (s.selectGrammar name).2 then some ⟨s.library, s.disk, name⟩ else before?
  | _ => before?

def originIn? (s : Session) (before? : Option Origin) : List Part → Option Origin
  | [] => before?
  | part :: parts => (s.step part).originIn? (s.origin? before? part) parts

/-- Others may change files, settings and directories, but not what the library takes for loaded. -/
def LeavesLoaded (s : Session) : List Part → Prop
  | [] => True
  | part :: parts =>
    (∀ library disk, part = .aside (.outside library disk) →
      library.loaded = s.library.loaded) ∧ (s.step part).LeavesLoaded parts

structure Known (s : Session) (origin? : Option Origin) : Prop where
  current : s.library.current? .grammar = origin?.map fun o => Text.trimmed o.name
  found : ∀ o, origin? = some o → o.library.StandsFor o.disk .grammar o.name s.grammar
  missing : origin? = none → s.grammar = .empty ResourceKind.grammar.standard

variable {options : EditorOptions} {s : Session} {before? : Option Origin}

theorem Known.congr {s' : Session} (h : s.Known before?) (loaded : s'.library.loaded = s.library.loaded)
    (grammar : s'.grammar = s.grammar) : s'.Known before? := by
  constructor
  · unfold Library.current?
    rw [loaded]
    exact h.current
  · rw [grammar]
    exact h.found
  · rw [grammar]
    exact h.missing

theorem known_start (directories : List Path) (settings : Settings) (disk : Disk)
    (options : EditorOptions) :
    (start (.new directories settings) disk options).Known
      (startOrigin? (.new directories settings) disk) := by
  unfold startOrigin?
  have hequipment := equipment_start (.new directories settings) disk options
  have hnothing : (Library.new directories settings).current? .grammar = none := rfl
  rcases htheme : (Library.new directories settings).loadPreferred disk .theme with
    ⟨library, disk', theme?⟩
  simp only [htheme] at hequipment ⊢
  have hcurrent : library.current? .grammar = none := by
    cases theme? with
    | none =>
      obtain ⟨-, rfl, -⟩ := Library.loadPreferred_of_none htheme
      exact hnothing
    | some theme =>
      obtain ⟨name, -, hloads⟩ := Library.loads_of_loadPreferred htheme
      unfold Library.current?
      rw [hloads.loaded, Dictionary.find?_insert, if_neg (by decide)]
      exact hnothing
  rcases hgrammar : library.loadPreferred disk' .grammar with ⟨library', disk'', grammar?⟩
  simp only [hgrammar] at hequipment
  obtain ⟨-, hmodel, hlibrary, -, -⟩ := of_equipment_eq hequipment
  cases grammar? with
  | none =>
    obtain ⟨hmissing, rfl, -⟩ := Library.loadPreferred_of_none hgrammar
    rw [hmissing]
    exact ⟨by rw [hlibrary, hcurrent]; rfl, nofun, fun _ => hmodel⟩
  | some grammar =>
    obtain ⟨name, hfound, hloads⟩ := Library.loads_of_loadPreferred hgrammar
    rw [hfound]
    refine ⟨by rw [hlibrary, hloads.current?]; rfl, ?_, nofun⟩
    rintro o ⟨⟩
    rw [hmodel]
    exact hloads.model

theorem known_selectTheme (h : s.Known before?) (name : String) :
    (s.selectTheme name).1.Known before? := by
  obtain ⟨theme, library, disk, loads, -, hequipment⟩ | ⟨-, same⟩ := s.selectTheme_cases name
  · obtain ⟨-, hgrammar, hlibrary, -, -⟩ := of_equipment_eq hequipment
    constructor
    · -- A theme is kept under a label of its own.
      unfold Library.current?
      rw [hlibrary, loads.loaded, Dictionary.find?_insert, if_neg (by decide)]
      exact h.current
    · rw [hgrammar]
      exact h.found
    · rw [hgrammar]
      exact h.missing
  · rw [same]
    exact h

theorem known_selectGrammar (h : s.Known before?) (name : String) :
    (s.selectGrammar name).1.Known (s.origin? before? (.aside (.selectGrammar name))) := by
  obtain ⟨-, grammar, library, disk, loads, accepted, hequipment⟩ | ⟨-, same⟩ :=
    s.selectGrammar_cases name
  · obtain ⟨-, hgrammar, hlibrary, -, -⟩ := of_equipment_eq hequipment
    simp only [origin?, accepted, if_true]
    refine ⟨by rw [hlibrary, loads.current?]; rfl, ?_, nofun⟩
    rintro o ⟨⟩
    rw [hgrammar]
    exact loads.model
  · simp only [origin?, same, Bool.false_eq_true, if_false]
    exact h

theorem known_saveFile (h : s.Known before?) (file : Path) :
    (s.stepAside (.saveFile file)).Known before? := by
  rw [stepAside, saveFile]
  cases s.disk.write file (Text.Utf8.encode s.text) with
  | error cause => exact h
  | ok disk => exact h.congr rfl rfl

theorem origin?_eq_self {part : Part} (other : ∀ name, part ≠ .aside (.selectGrammar name)) :
    s.origin? before? part = before? := by
  unfold origin?
  split
  · next name => exact absurd rfl (other name)
  · rfl

theorem known_step (h : s.Known before?) {part : Part}
    (leaves : ∀ library disk, part = .aside (.outside library disk) →
      library.loaded = s.library.loaded) : (s.step part).Known (s.origin? before? part) := by
  by_cases hgrammar : ∃ name, part = .aside (.selectGrammar name)
  · obtain ⟨name, rfl⟩ := hgrammar
    exact known_selectGrammar h name
  · rw [origin?_eq_self (not_exists.mp hgrammar)]
    obtain same | ⟨name, rfl⟩ | hname | ⟨enabled, rfl⟩ | ⟨file, rfl⟩ | ⟨library, disk, rfl⟩ :=
      s.equipment_step_cases part
    · obtain ⟨-, hsame, hlibrary, -, -⟩ := of_equipment_eq same
      exact h.congr (congrArg (·.loaded) hlibrary) hsame
    · exact known_selectTheme h name
    · exact absurd hname hgrammar
    · exact h.congr rfl rfl
    · exact known_saveFile h file
    · exact h.congr (leaves library disk rfl) rfl

theorem known_steps (h : s.Known before?) {parts : List Part} (leaves : s.LeavesLoaded parts) :
    (s.steps parts).Known (s.originIn? before? parts) := by
  induction parts generalizing s before? with
  | nil => exact h
  | cons part parts ih =>
    obtain ⟨here, later⟩ := leaves
    exact ih (known_step h here) later

/-! ## All or nothing -/

/-- A name has been chosen: what it stands for has taken its place, and the rest has followed. -/
structure Switched {α : Type} (kind : ResourceKind α) (name : String) (model : α) (s s' : Session) :
    Prop extends Sameness s s' where
  model : s.library.StandsFor s.disk kind name model
  current : s'.library.current? kind = some (Text.trimmed name)
  preferred : s'.library.settings.text? kind.setting = some (Text.trimmed name)
  base : s'.base = s'.options.base s'.theme
  colors : s'.colors = .ofGrammar s'.theme s'.grammar

theorem switched_selectTheme (h : s.InStep options) {name : String}
    (accepted : (s.selectTheme name).2 = true) :
    Switched .theme name (s.selectTheme name).1.theme s (s.selectTheme name).1 ∧
      (s.selectTheme name).1.grammar = s.grammar := by
  have hready := (inStep_selectTheme h name).toReady
  obtain ⟨theme, library, disk, loads, -, hequipment⟩ | ⟨-, same⟩ := s.selectTheme_cases name
  · obtain ⟨htheme, hgrammar, hlibrary, -, -⟩ := of_equipment_eq hequipment
    refine ⟨⟨s.sameness_selectTheme name, ?_, ?_, ?_, ?_, hready.colors⟩, hgrammar⟩
    · rw [htheme]
      exact loads.model
    · rw [hlibrary]
      exact loads.current?
    · rw [hlibrary]
      exact loads.text?_setting
    · rw [hready.fixed]
      exact hready.base
  · rw [same] at accepted
    cases accepted

theorem switched_selectGrammar (h : s.InStep options) {name : String}
    (accepted : (s.selectGrammar name).2 = true) :
    Switched .grammar name (s.selectGrammar name).1.grammar s (s.selectGrammar name).1 ∧
      (s.selectGrammar name).1.theme = s.theme := by
  have hready := (inStep_selectGrammar h name).toReady
  obtain ⟨-, grammar, library, disk, loads, -, hequipment⟩ | ⟨-, same⟩ :=
    s.selectGrammar_cases name
  · obtain ⟨htheme, hgrammar, hlibrary, -, -⟩ := of_equipment_eq hequipment
    refine ⟨⟨s.sameness_selectGrammar name, ?_, ?_, ?_, ?_, hready.colors⟩, htheme⟩
    · rw [hgrammar]
      exact loads.model
    · rw [hlibrary]
      exact loads.current?
    · rw [hlibrary]
      exact loads.text?_setting
    · rw [hready.fixed]
      exact hready.base
  · rw [same] at accepted
    cases accepted

/-- A grammar is passed over, whatever there is on the disk, only when it is there already. -/
theorem Known.passes_over (h : s.Known before?) {name : String}
    (same : before?.map (Text.trimmed ·.name) = some (Text.trimmed name)) (disk : Disk) :
    { s with disk := disk }.selectGrammar name = ({ s with disk := disk }, false) := by
  have hcurrent : s.library.isCurrent .grammar name = true := by
    unfold Library.isCurrent
    rw [h.current, beq_iff_eq]
    exact same
  unfold selectGrammar
  rw [if_pos hcurrent]

theorem Known.tries (h : s.Known before?) {name : String}
    (other : before?.map (Text.trimmed ·.name) ≠ some (Text.trimmed name)) :
    (s.selectGrammar name).2 = (s.library.find s.disk .grammar name).isOk := by
  have hcurrent : s.library.isCurrent .grammar name = false := by
    unfold Library.isCurrent
    rw [h.current, beq_eq_false_iff_ne]
    exact other
  obtain ⟨-, grammar, _, _, loads, accepted, -⟩ | ⟨reason, same⟩ := s.selectGrammar_cases name
  · rw [accepted, Library.find_of_standsFor loads.model]
    rfl
  · rw [same]
    have hnone := reason.resolve_left (by rw [hcurrent]; exact Bool.false_ne_true)
    symm
    rw [Bool.eq_false_iff]
    intro hok
    obtain ⟨grammar, hgrammar⟩ := Library.isOk_find_iff.mp hok
    exact hnone grammar hgrammar

/-! ## There and back -/

theorem display_selectTheme (h : s.InStep options) {name : String}
    (accepted : (s.selectTheme name).2 = true) :
    (s.selectTheme name).1.display =
      (Highlight.pass (Highlight.compile s.grammar) s.display (s.selectTheme name).1.colors
        (s.selectTheme name).1.base).1 := by
  rw [← patternsFor_eq h.toReady]
  unfold selectTheme at accepted ⊢
  rcases hload : s.library.load s.disk .theme name with ⟨library, disk, _ | theme⟩
  · simp only [hload, Bool.false_eq_true] at accepted
  · simp only [announce, rehighlight, Highlighter.highlight]

theorem uniform_selectTheme (h : s.InStep options) (name : String) :
    Run.All (·.SameFractions (s.selectTheme name).1.base) s.display.runs := by
  intro r hr
  have hr := h.uniform r hr
  rw [h.base] at hr
  rw [(inStep_selectTheme h name).base]
  exact hr.trans (options.sameFractions_base _ _)

theorem styles_selectTheme_congr {s' : Session} (h : s.InStep options) (h' : s'.InStep options)
    {name : String} (accepted : (s.selectTheme name).2 = true)
    (accepted' : (s'.selectTheme name).2 = true) (text : s'.text = s.text)
    (grammar : s'.grammar = s.grammar)
    (theme : (s'.selectTheme name).1.theme = (s.selectTheme name).1.theme) :
    Run.styles (s'.selectTheme name).1.display.runs = Run.styles (s.selectTheme name).1.display.runs ∧
      (options.size.isNaN = false →
        (s'.selectTheme name).1.display.runs = (s.selectTheme name).1.display.runs) := by
  have hnext := inStep_selectTheme h name
  have hnext' := inStep_selectTheme h' name
  have hkept := (switched_selectTheme h accepted).2
  have hkept' := (switched_selectTheme h' accepted').2
  have hbase : (s'.selectTheme name).1.base = (s.selectTheme name).1.base := by
    rw [hnext'.base, hnext.base, theme]
  have hcolors : (s'.selectTheme name).1.colors = (s.selectTheme name).1.colors := by
    rw [hnext'.colors, hnext.colors, theme, hkept, hkept', grammar]
  have huniform := uniform_selectTheme h name
  have huniform' := uniform_selectTheme h' name
  rw [display_selectTheme h accepted, display_selectTheme h' accepted', hcolors, grammar]
  rw [hbase] at huniform' ⊢
  exact ⟨Highlight.styles_pass_congr h'.sound h.sound text huniform' huniform _ _,
    fun numeric => Highlight.runs_pass_congr h'.sound h.sound text huniform' huniform
      (by rw [hnext.base]; exact EditorOptions.isNumeric_base numeric _) _ _⟩

theorem there_and_back (h : s.InStep options) {a b : String}
    (same : s.library.SameFiles .theme s.disk ((s.selectTheme a).1.selectTheme b).1.disk)
    (first : (s.selectTheme a).2 = true)
    (third : (((s.selectTheme a).1.selectTheme b).1.selectTheme a).2 = true) :
    let before := (s.selectTheme a).1.display
    let after := (((s.selectTheme a).1.selectTheme b).1.selectTheme a).1.display
    (∀ byte, after.attributesAt? byte = before.attributesAt? byte) ∧
      (options.size.isNaN = false → after.runs = before.runs) := by
  intro before after
  have hfirst := switched_selectTheme h first
  have hsecond := inStep_selectTheme (inStep_selectTheme h a) b
  have hthird := switched_selectTheme hsecond third
  obtain ⟨hstyles, hruns⟩ := styles_selectTheme_congr h hsecond first third
    (by rw [(sameness_selectTheme _ b).text, (sameness_selectTheme _ a).text])
    (by rw [grammar_selectTheme, grammar_selectTheme])
    (by
      refine hthird.1.model.unique (hfirst.1.model.congr ?_ same rfl)
      rw [directories_selectTheme, directories_selectTheme])
  refine ⟨fun byte => ?_, hruns⟩
  rw [StyledText.attributesAt?_eq, StyledText.attributesAt?_eq, hstyles]

/-! ## Every run -/

/-- What choosing by name does to a session whose grammar comes from there. -/
structure Switches (s : Session) (origin? : Option Origin) : Prop where
  theme : ∀ name, (s.selectTheme name).2 = true →
    Switched .theme name (s.selectTheme name).1.theme s (s.selectTheme name).1 ∧
      (s.selectTheme name).1.grammar = s.grammar
  grammar : ∀ name, (s.selectGrammar name).2 = true →
    Switched .grammar name (s.selectGrammar name).1.grammar s (s.selectGrammar name).1 ∧
      (s.selectGrammar name).1.theme = s.theme
  noTheme : ∀ name, (s.selectTheme name).2 = false → (s.selectTheme name).1 = s
  noGrammar : ∀ name, (s.selectGrammar name).2 = false → (s.selectGrammar name).1 = s
  known : s.Known origin?
  passedOver : ∀ name, origin?.map (Text.trimmed ·.name) = some (Text.trimmed name) →
    ∀ disk, { s with disk := disk }.selectGrammar name = ({ s with disk := disk }, false)
  tried : ∀ name, origin?.map (Text.trimmed ·.name) ≠ some (Text.trimmed name) →
    (s.selectGrammar name).2 = (s.library.find s.disk .grammar name).isOk
  thereAndBack : ∀ a b,
    s.library.SameFiles .theme s.disk ((s.selectTheme a).1.selectTheme b).1.disk →
    (s.selectTheme a).2 = true → (((s.selectTheme a).1.selectTheme b).1.selectTheme a).2 = true →
    let before := (s.selectTheme a).1.display
    let after := (((s.selectTheme a).1.selectTheme b).1.selectTheme a).1.display
    (∀ byte, after.attributesAt? byte = before.attributesAt? byte) ∧
      (s.options.size.isNaN = false → after.runs = before.runs)

/-- After any actions a name that is accepted has its theme or grammar loaded and everything that
follows from it renewed, and one that is refused changes nothing. A grammar is refused without a look
at the disk when it was loaded under this name, and only then. -/
theorem switching_is_all_or_nothing (directories : List Path) (settings : Settings) (disk : Disk)
    (options : EditorOptions) (actions : List Action) :
    let library := Library.new directories settings
    let first := start library disk options
    first.LeavesLoaded (first.allParts actions) →
      (first.run actions).Switches
        (first.originIn? (startOrigin? library disk) (first.allParts actions)) := by
  intro library first leaves
  have h : (first.run actions).InStep options := inStep_run library disk options actions
  have hknown := known_steps (known_start directories settings disk options) leaves
  rw [steps_allParts] at hknown
  exact
    { theme := fun _ accepted => switched_selectTheme h accepted
      grammar := fun _ accepted => switched_selectGrammar h accepted
      noTheme := fun _ refused => (selectTheme_refused refused).1
      noGrammar := fun _ refused => (selectGrammar_refused refused).1
      known := hknown
      passedOver := fun _ same disk => hknown.passes_over same disk
      tried := fun _ other => hknown.tries other
      thereAndBack := fun a b same first third => by
        rw [h.fixed]
        exact there_and_back h same first third }

theorem switching_is_all_or_nothing_light :
    let first := start (.new [] .memory) default .standard
    let actions := [.execute (.selectTheme " Prime Light ")]
    first.LeavesLoaded (first.allParts actions) ∧
      (first.run actions).selectGrammar "HP Prime PPL\n" = (first.run actions, false) := by
  intro first actions
  have leaves : first.LeavesLoaded (first.allParts actions) := ⟨nofun, trivial⟩
  have hswitches := switching_is_all_or_nothing [] .memory default .standard actions leaves
  have same : (first.originIn? (startOrigin? (.new [] .memory) default)
      (first.allParts actions)).map (Text.trimmed ·.name) =
        some (Text.trimmed "HP Prime PPL\n") := by decide +kernel
  refine ⟨leaves, ?_⟩
  generalize first.run actions = s at hswitches ⊢
  exact hswitches.passedOver _ same s.disk

end CodeEditor.Session
