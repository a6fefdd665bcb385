import CodeEditor.Proofs.Library.Preferred
import CodeEditor.Proofs.Session.Equipment

/-! # Reopening

Whatever a session has loaded, failed to load or switched, a session that is opened after it on the
same settings has its theme, its grammar and its toggle. It may also read the settings from their file,
as long as all that was to be written there has been written.
-/

namespace CodeEditor.Session

/-- What a session that starts with this library and disk has is what there is now. -/
def Equipment.Remembered (e : Equipment) : Prop :=
  e.library.setup e.disk = ⟨e.theme, e.grammar, e.smartSubstitution⟩

def setup (s : Session) : Setup := ⟨s.theme, s.grammar, s.smartSubstitution⟩

/-! ## Starting -/

/-- What is written at a start leaves the themes and grammars as they are. -/
structure StartsUndisturbed (library : Library) (disk : Disk) : Prop where
  theme : library.SameResources disk (library.afterLoad disk .theme).2
  grammar : (library.afterLoad disk .theme).1.SameResources (library.afterLoad disk .theme).2
    ((library.afterLoad disk .theme).1.afterLoad (library.afterLoad disk .theme).2 .grammar).2

variable {library : Library} {disk : Disk}

theorem equipment_start_eq (library : Library) (disk : Disk) (options : EditorOptions) :
    (start library disk options).equipment =
      let t := library.afterLoad disk .theme
      let g := t.1.afterLoad t.2 .grammar
      ⟨(library.setup disk).theme, (t.1.setup t.2).grammar, g.1, g.2,
        (g.1.setup g.2).smartSubstitution⟩ := by
  rw [equipment_start]
  simp only [Library.loadPreferred_model]
  rfl

theorem equipment_start_of_undisturbed (undisturbed : StartsUndisturbed library disk)
    (options : EditorOptions) :
    (start library disk options).setup = library.setup disk ∧
      (start library disk options).equipment.Remembered := by
  have htheme := Library.setup_afterLoad_theme undisturbed.theme
  have hgrammar := Library.setup_afterLoad_grammar undisturbed.grammar
  rw [htheme] at hgrammar
  have hequipment := equipment_start_eq library disk options
  simp only [htheme, hgrammar] at hequipment
  constructor
  · obtain ⟨hmodel, hmodel', -, -, htoggle⟩ := of_equipment_eq hequipment
    unfold setup
    rw [hmodel, hmodel', htoggle]
  · rw [hequipment]
    exact hgrammar

/-! ## Parts -/

/-- A part leaves the themes and grammars as they are, and nobody else changes the library. -/
structure Undisturbed (s : Session) (part : Part) : Prop where
  resources : s.library.SameResources s.disk (s.step part).equipment.disk
  library : ∀ library disk, part = .aside (.outside library disk) → library = s.library

def UndisturbedIn (s : Session) : List Part → Prop
  | [] => True
  | part :: parts => s.Undisturbed part ∧ (s.step part).UndisturbedIn parts

variable {s : Session} {part : Part}

theorem Equipment.Remembered.of_disk {e : Equipment} (h : e.Remembered) {d : Disk}
    (same : e.library.SameResources e.disk d) :
    Remembered ⟨e.theme, e.grammar, e.library, d, e.smartSubstitution⟩ :=
  (Library.setup_congr rfl same rfl rfl rfl).trans h

theorem remembered_selectTheme (h : s.equipment.Remembered) {name : String}
    (same : s.library.SameResources s.disk (s.selectTheme name).1.equipment.disk) :
    (s.selectTheme name).1.equipment.Remembered := by
  obtain ⟨theme, l, d, loads, -, hequipment⟩ | ⟨-, hsame⟩ := s.selectTheme_cases name
  · rw [hequipment] at same ⊢
    unfold Equipment.Remembered at h ⊢
    rw [loads.setup_theme same]
    exact congrArg ({ · with theme := theme }) h
  · rw [hsame]
    exact h

theorem remembered_selectGrammar (h : s.equipment.Remembered) {name : String}
    (same : s.library.SameResources s.disk (s.selectGrammar name).1.equipment.disk) :
    (s.selectGrammar name).1.equipment.Remembered := by
  obtain ⟨-, grammar, l, d, loads, -, hequipment⟩ | ⟨-, hsame⟩ := s.selectGrammar_cases name
  · rw [hequipment] at same ⊢
    unfold Equipment.Remembered at h ⊢
    rw [loads.setup_grammar same]
    exact congrArg ({ · with grammar := grammar }) h
  · rw [hsame]
    exact h

theorem remembered_setSmartSubstitution (h : s.equipment.Remembered) {enabled : Bool}
    (same : s.library.SameResources s.disk (s.setSmartSubstitution enabled).equipment.disk) :
    (s.setSmartSubstitution enabled).equipment.Remembered := by
  have hdirectories : (s.setSmartSubstitution enabled).library.directories =
      s.library.directories := rfl
  have hswitched : (s.setSmartSubstitution enabled).library.settings =
      (s.library.settings.setBool s.disk smartSubstitutionSetting enabled).1 := rfl
  unfold Equipment.Remembered at h ⊢
  refine (Library.setup_of_setBool hdirectories hswitched same).trans ?_
  exact congrArg ({ · with smartSubstitution := enabled }) h

theorem equipment_saveFile (s : Session) (file : Path) :
    (s.stepAside (.saveFile file)).equipment =
      { s.equipment with disk := (s.stepAside (.saveFile file)).disk } := by
  rw [stepAside, saveFile]
  cases s.disk.write file (Text.Utf8.encode s.text) <;> rfl

theorem remembered_step (h : s.equipment.Remembered) (undisturbed : s.Undisturbed part) :
    (s.step part).equipment.Remembered := by
  have hsame := undisturbed.resources
  obtain same | ⟨name, rfl⟩ | ⟨name, rfl⟩ | ⟨enabled, rfl⟩ | ⟨file, rfl⟩ | ⟨library, disk, rfl⟩ :=
    s.equipment_step_cases part
  · rw [same]
    exact h
  · exact remembered_selectTheme h hsame
  · exact remembered_selectGrammar h hsame
  · exact remembered_setSmartSubstitution h hsame
  · show (s.stepAside (.saveFile file)).equipment.Remembered
    rw [equipment_saveFile]
    exact h.of_disk hsame
  · have hlibrary := undisturbed.library library disk rfl
    subst hlibrary
    exact h.of_disk hsame

theorem remembered_steps (h : s.equipment.Remembered) {parts : List Part}
    (undisturbed : s.UndisturbedIn parts) : (s.steps parts).equipment.Remembered := by
  induction parts generalizing s with
  | nil => exact h
  | cons part parts ih =>
    obtain ⟨here, later⟩ := undisturbed
    exact ih (remembered_step h here) later

/-! ## The file of the settings -/

/-- All that is to be written at a start gets written. -/
structure StartWrites (library : Library) (disk : Disk) : Prop where
  theme : (library.preferredModel? disk .theme).isSome = true →
    ((library.afterLoad disk .theme).1.settings.saved? disk).isOk = true
  grammar : ((library.afterLoad disk .theme).1.preferredModel? (library.afterLoad disk .theme).2
      .grammar).isSome = true →
    (((library.afterLoad disk .theme).1.afterLoad (library.afterLoad disk .theme).2
      .grammar).1.settings.saved? (library.afterLoad disk .theme).2).isOk = true

def writesSettings (s : Session) : Part → Bool
  | .aside (.selectTheme name) => (s.selectTheme name).2
  | .aside (.selectGrammar name) => (s.selectGrammar name).2
  | .aside (.setSmartSubstitution _) => true
  | _ => false

/-- What a part is to write gets written, and nothing else is written to the file. -/
structure Writes (s : Session) (file : Path) (part : Part) : Prop where
  settings : s.writesSettings part = true →
    ((s.step part).equipment.library.settings.saved? s.disk).isOk = true
  others : s.writesSettings part = false →
    (s.step part).equipment.disk.readText file = s.disk.readText file

def WritesIn (s : Session) (file : Path) : List Part → Prop
  | [] => True
  | part :: parts => s.Writes file part ∧ (s.step part).WritesIn file parts

variable {file : Path}

theorem keptIn_start (h : library.settings.KeptIn disk file) (writes : StartWrites library disk)
    (options : EditorOptions) :
    (start library disk options).library.settings.KeptIn (start library disk options).disk file := by
  obtain ⟨-, -, hlibrary, hdisk, -⟩ := of_equipment_eq (equipment_start_eq library disk options)
  rw [hlibrary, hdisk]
  exact Library.keptIn_afterLoad (Library.keptIn_afterLoad h writes.theme) writes.grammar

theorem keptIn_selectTheme (h : s.library.settings.KeptIn s.disk file) {name : String}
    (writes : (s.selectTheme name).2 = true →
      ((s.selectTheme name).1.equipment.library.settings.saved? s.disk).isOk = true) :
    (s.selectTheme name).1.equipment.library.settings.KeptIn (s.selectTheme name).1.equipment.disk
      file := by
  obtain ⟨theme, l, d, loads, accepted, hequipment⟩ | ⟨-, hsame⟩ := s.selectTheme_cases name
  · rw [hequipment] at writes ⊢
    exact loads.keptIn h (writes accepted)
  · rw [hsame]
    exact h

theorem keptIn_selectGrammar (h : s.library.settings.KeptIn s.disk file) {name : String}
    (writes : (s.selectGrammar name).2 = true →
      ((s.selectGrammar name).1.equipment.library.settings.saved? s.disk).isOk = true) :
    (s.selectGrammar name).1.equipment.library.settings.KeptIn
      (s.selectGrammar name).1.equipment.disk file := by
  obtain ⟨-, grammar, l, d, loads, accepted, hequipment⟩ | ⟨-, hsame⟩ := s.selectGrammar_cases name
  · rw [hequipment] at writes ⊢
    exact loads.keptIn h (writes accepted)
  · rw [hsame]
    exact h

theorem keptIn_setSmartSubstitution (h : s.library.settings.KeptIn s.disk file) {enabled : Bool}
    (saved : ((s.setSmartSubstitution enabled).equipment.library.settings.saved? s.disk).isOk =
      true) :
    (s.setSmartSubstitution enabled).equipment.library.settings.KeptIn
      (s.setSmartSubstitution enabled).equipment.disk file := by
  unfold setSmartSubstitution equipment at saved ⊢
  exact h.set smartSubstitutionSetting (.bool _ enabled) saved

theorem keptIn_step (h : s.library.settings.KeptIn s.disk file) (undisturbed : s.Undisturbed part)
    (writes : s.Writes file part) :
    (s.step part).equipment.library.settings.KeptIn (s.step part).equipment.disk file := by
  have hsettings := writes.settings
  have hothers := writes.others
  obtain same | ⟨name, rfl⟩ | ⟨name, rfl⟩ | ⟨enabled, rfl⟩ | ⟨other, rfl⟩ | ⟨library, disk, rfl⟩ :=
    s.equipment_step_cases part
  · rw [same]
    exact h
  · rw [step, stepAside] at hsettings ⊢
    exact keptIn_selectTheme h hsettings
  · rw [step, stepAside] at hsettings ⊢
    exact keptIn_selectGrammar h hsettings
  · rw [step, stepAside] at hsettings ⊢
    exact keptIn_setSmartSubstitution h (hsettings rfl)
  · have hsame := s.equipment_saveFile other
    have hlibrary := congrArg Equipment.library hsame
    show (s.stepAside (.saveFile other)).equipment.library.settings.KeptIn
      (s.stepAside (.saveFile other)).equipment.disk file
    rw [hlibrary]
    exact h.congr (hothers rfl)
  · have hlibrary := undisturbed.library library disk rfl
    subst hlibrary
    exact h.congr (hothers rfl)

theorem keptIn_steps (h : s.library.settings.KeptIn s.disk file) {parts : List Part}
    (undisturbed : s.UndisturbedIn parts) (writes : s.WritesIn file parts) :
    (s.steps parts).library.settings.KeptIn (s.steps parts).disk file := by
  induction parts generalizing s with
  | nil => exact h
  | cons part parts ih =>
    obtain ⟨here, later⟩ := undisturbed
    obtain ⟨writesHere, writesLater⟩ := writes
    exact ih (keptIn_step h here writesHere) later writesLater

/-! ## Opening again -/

theorem directories_start (library : Library) (disk : Disk) (options : EditorOptions) :
    (start library disk options).library.directories = library.directories := by
  obtain ⟨-, -, hlibrary, -, -⟩ := of_equipment_eq (equipment_start_eq library disk options)
  rw [hlibrary]
  simp only [Library.directories_afterLoad]

theorem directories_step (undisturbed : s.Undisturbed part) :
    (s.step part).library.directories = s.library.directories := by
  obtain same | ⟨name, rfl⟩ | ⟨name, rfl⟩ | ⟨enabled, rfl⟩ | ⟨other, rfl⟩ | ⟨library, disk, rfl⟩ :=
    s.equipment_step_cases part
  · exact congrArg (·.library.directories) same
  · rw [step, stepAside, directories_selectTheme]
  · rw [step, stepAside, directories_selectGrammar]
  · rfl
  · exact congrArg (·.library.directories) (s.equipment_saveFile other)
  · exact congrArg (·.directories) (undisturbed.library library disk rfl)

theorem directories_steps {parts : List Part} (undisturbed : s.UndisturbedIn parts) :
    (s.steps parts).library.directories = s.library.directories := by
  induction parts generalizing s with
  | nil => rfl
  | cons part parts ih =>
    obtain ⟨here, later⟩ := undisturbed
    exact (ih later).trans (directories_step here)

theorem setup_start_of_remembered (h : s.equipment.Remembered) {settings : Settings}
    (agree : Settings.Agree s.library.settings.values settings.values) (options : EditorOptions)
    (undisturbed : StartsUndisturbed (.new s.library.directories settings) s.disk) :
    (start (.new s.library.directories settings) s.disk options).setup = s.setup := by
  have hagain : (Library.new s.library.directories settings).setup s.disk =
      s.library.setup s.disk := Library.setup_of_agree rfl agree
  rw [(equipment_start_of_undisturbed undisturbed options).1, hagain]
  exact h

/-- Whatever has been done in a session, one that is opened on its settings has its setup. If the
settings come from a file to which all is written, they may be read from there again. -/
theorem reopening_restores (library : Library) (disk : Disk) (options options' : EditorOptions)
    (actions : List Action) (starts : StartsUndisturbed library disk)
    (undisturbed : (start library disk options).UndisturbedIn
      ((start library disk options).allParts actions)) :
    let first := start library disk options
    let s := first.run actions
    (StartsUndisturbed (.new library.directories s.library.settings) s.disk →
      (start (.new library.directories s.library.settings) s.disk options').setup = s.setup) ∧
    ∀ file, library.settings = .openFile disk file → StartWrites library disk →
      first.WritesIn file (first.allParts actions) →
      StartsUndisturbed (.new library.directories (.openFile s.disk file)) s.disk →
      (start (.new library.directories (.openFile s.disk file)) s.disk options').setup =
        s.setup := by
  intro first s
  have hremembered :=
    remembered_steps (equipment_start_of_undisturbed starts options).2 undisturbed
  have hdirectories :=
    (directories_steps undisturbed).trans (directories_start library disk options)
  rw [steps_allParts] at hremembered hdirectories
  rw [← hdirectories]
  refine ⟨setup_start_of_remembered hremembered (fun _ => rfl) options', ?_⟩
  intro file hfile startWrites writes
  have hopened : library.settings.KeptIn disk file := by
    rw [hfile]
    exact Settings.keptIn_openFile disk file
  have hkept := keptIn_steps (keptIn_start hopened startWrites options) undisturbed writes
  rw [steps_allParts] at hkept
  exact setup_start_of_remembered hremembered hkept.agree options'

theorem reopening_restores_light :
    let file : Path := ⟨"settings.json"⟩
    let written := "\x7b\"preferredTheme\": \" Gone \", \"zoom\": 1.50\x7d"
    let disk : Disk := ⟨[(["settings.json"], .file (Text.Utf8.encode written.toList) false)], []⟩
    let first := start (.new [] (.openFile disk file)) disk .standard
    let actions := [.execute (.selectTheme " Prime Light "), .execute .toggleSmartSubstitution]
    let s := first.run actions
    (s.theme.name ≠ first.theme.name ∧ s.smartSubstitution = true) ∧
      (start (.new [] s.library.settings) s.disk .standard).setup = s.setup ∧
      (start (.new [] (.openFile s.disk file)) s.disk .standard).setup = s.setup := by
  intro file written disk first actions
  have starts (settings : Settings) (disk : Disk) : StartsUndisturbed (.new [] settings) disk :=
    ⟨.of_no_directories rfl, .of_no_directories (Library.directories_afterLoad _ _ _)⟩
  have startWrites : StartWrites (.new [] (.openFile disk file)) disk :=
    ⟨fun _ => by decide +kernel, fun _ => by decide +kernel⟩
  have undisturbed : first.UndisturbedIn (first.allParts actions) :=
    ⟨⟨.of_no_directories (directories_start _ _ _), nofun⟩,
      ⟨.of_no_directories (by decide +kernel), nofun⟩, trivial⟩
  have writes : first.WritesIn file (first.allParts actions) :=
    ⟨⟨fun _ => by decide +kernel, fun idle => absurd idle (by decide +kernel)⟩,
      ⟨fun _ => by decide +kernel, fun idle => absurd idle (by decide +kernel)⟩, trivial⟩
  have hchanged : (first.run actions).theme.name ≠ first.theme.name ∧
      (first.run actions).smartSubstitution = true := by decide +kernel
  have hrestores := reopening_restores (.new [] (.openFile disk file)) disk .standard
    .standard actions (starts _ _) undisturbed
  obtain ⟨hsame, hread⟩ := hrestores
  have hreread := hread file rfl startWrites writes
  generalize first.run actions = s at hchanged hsame hreread ⊢
  exact ⟨hchanged, hsame (starts _ _), hreread (starts _ _)⟩

end CodeEditor.Session
