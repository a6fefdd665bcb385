import CodeEditor.Proofs.Library
import CodeEditor.Proofs.Settings
import CodeEditor.Session

/-! # What is preferred

What has been loaded is what would be loaded again: under its name, when it was chosen, and also when
it was taken in place of one that could not be loaded. Loading one kind leaves the others alone.
-/

namespace CodeEditor

/-- What is chosen by name or by a switch, and kept in the settings. -/
structure Setup where
  theme : Theme
  grammar : Grammar
  smartSubstitution : Bool
  deriving DecidableEq

namespace Library

variable {α : Type} {l l' : Library} {d d' : Disk} {kind : ResourceKind α} {name : String} {value : α}

/-- What the preferred name stands for, or else the standard one. -/
def preferredModel? (l : Library) (d : Disk) (kind : ResourceKind α) : Option α :=
  (l.firstFound? d kind (l.choices kind)).bind fun name => (l.find d kind name).toOption

/-- What a session starts with. -/
def setup (l : Library) (d : Disk) : Setup where
  theme := (l.preferredModel? d .theme).getD (.plain ResourceKind.theme.standard)
  grammar := (l.preferredModel? d .grammar).getD (.empty ResourceKind.grammar.standard)
  smartSubstitution := (l.settings.bool? Session.smartSubstitutionSetting).getD false

/-- The themes and grammars are the same on both disks. -/
structure SameResources (l : Library) (d d' : Disk) : Prop where
  theme : l.SameFiles .theme d d'
  grammar : l.SameFiles .grammar d d'

theorem SameResources.of_no_directories (h : l.directories = []) : l.SameResources d d' := by
  constructor <;>
  · intro name _ p hp
    unfold candidates at hp
    rw [h] at hp
    exact absurd hp List.not_mem_nil

/-! ## The same files and the same preference -/

theorem SameFiles.of_directories (same : l.SameFiles kind d d')
    (directories : l'.directories = l.directories) : l'.SameFiles kind d d' := by
  intro name valid p hp
  unfold candidates at hp
  rw [directories] at hp
  exact same name valid p hp

theorem toOption_find_eq_some :
    (l.find d kind name).toOption = some value ↔ l.StandsFor d kind name value := by
  rw [← find_eq_ok_iff]
  cases l.find d kind name <;> simp [Except.toOption]

theorem toOption_find_congr (directories : l'.directories = l.directories)
    (same : l.SameFiles kind d d') (name : String) :
    (l'.find d' kind name).toOption = (l.find d kind name).toOption := by
  refine Option.ext fun value => ?_
  rw [toOption_find_eq_some, toOption_find_eq_some]
  exact ⟨fun h => h.congr directories.symm (same.of_directories directories).symm rfl,
    fun h => h.congr directories same rfl⟩

theorem preferredModel?_congr (directories : l'.directories = l.directories)
    (same : l.SameFiles kind d d')
    (preferred : l'.settings.text? kind.setting = l.settings.text? kind.setting) :
    l'.preferredModel? d' kind = l.preferredModel? d kind := by
  have hchoices : l'.choices kind = l.choices kind := by
    unfold choices preferred?
    rw [preferred]
  have hisOk : ∀ name, (l'.find d' kind name).isOk = (l.find d kind name).isOk := by
    intro name
    have hsame := congrArg Option.isSome (toOption_find_congr directories same name)
    cases hfind : l.find d kind name <;> cases hfind' : l'.find d' kind name <;>
      rw [hfind, hfind'] at hsame <;> first | rfl | cases hsame
  unfold preferredModel? firstFound?
  simp only [hchoices, hisOk, toOption_find_congr directories same]

theorem setup_congr (directories : l'.directories = l.directories) (same : l.SameResources d d')
    (theme : l'.settings.text? ResourceKind.theme.setting =
      l.settings.text? ResourceKind.theme.setting)
    (grammar : l'.settings.text? ResourceKind.grammar.setting =
      l.settings.text? ResourceKind.grammar.setting)
    (toggle : l'.settings.bool? Session.smartSubstitutionSetting =
      l.settings.bool? Session.smartSubstitutionSetting) : l'.setup d' = l.setup d := by
  unfold setup
  rw [preferredModel?_congr directories same.theme theme,
    preferredModel?_congr directories same.grammar grammar, toggle]

theorem setup_of_agree (directories : l'.directories = l.directories)
    (agree : Settings.Agree l.settings.values l'.settings.values) : l'.setup d = l.setup d := by
  have htext : ∀ name, l'.settings.text? name = l.settings.text? name := by
    intro name
    rw [Settings.text?_eq, Settings.text?_eq, agree name]
  have hbool : ∀ name, l'.settings.bool? name = l.settings.bool? name := by
    intro name
    rw [Settings.bool?_eq, Settings.bool?_eq, agree name]
  exact setup_congr directories ⟨fun _ _ _ _ => ⟨rfl, rfl⟩, fun _ _ _ _ => ⟨rfl, rfl⟩⟩
    (htext _) (htext _) (hbool _)

theorem setup_of_setBool {enabled : Bool} (directories : l'.directories = l.directories)
    (switched : l'.settings = (l.settings.setBool d Session.smartSubstitutionSetting enabled).1)
    (same : l.SameResources d d') :
    l'.setup d' = { l.setup d with smartSubstitution := enabled } := by
  have htext : ∀ setting, Session.smartSubstitutionSetting ≠ setting →
      l'.settings.text? setting = l.settings.text? setting := by
    rw [switched]
    exact l.settings.text?_setBool_of_ne d Session.smartSubstitutionSetting enabled
  have htheme := preferredModel?_congr directories same.theme (htext _ (by decide))
  have hgrammar := preferredModel?_congr directories same.grammar (htext _ (by decide))
  unfold setup
  rw [htheme, hgrammar, switched, l.settings.bool?_setBool]
  rfl

/-! ## Loading -/

theorem Loads.text?_of_ne (h : l.Loads d kind name value l' d') {setting : String}
    (other : kind.setting ≠ setting) : l'.settings.text? setting = l.settings.text? setting := by
  unfold Settings.text?
  rw [h.find?_settings, if_neg other]

theorem Loads.bool?_of_ne (h : l.Loads d kind name value l' d') {setting : String}
    (other : kind.setting ≠ setting) : l'.settings.bool? setting = l.settings.bool? setting := by
  unfold Settings.bool?
  rw [h.find?_settings, if_neg other]

theorem Loads.preferredModel? (h : l.Loads d kind name value l' d')
    (same : l.SameFiles kind d d') : l'.preferredModel? d' kind = some value := by
  have hvalid : isName name = true := by
    cases h.model with
    | file _ _ _ _ valid => exact valid
    | atHand valid => exact valid
  have hstands : l'.StandsFor d' kind (Text.trimmed name) value :=
    h.model.congr h.directories same (Text.trimmed_trimmed name)
  have hpreferred : l'.preferred? kind = some (Text.trimmed name) := by
    unfold preferred?
    rw [h.text?_setting, Option.map_some, Text.trimmed_trimmed]
    exact Option.filter_some_pos (by simpa using trimmed_ne_of_isName hvalid)
  have hfirst : l'.firstFound? d' kind (l'.choices kind) = some (Text.trimmed name) := by
    unfold firstFound? choices
    rw [hpreferred]
    exact List.find?_cons_of_pos (isOk_find_iff.mpr ⟨value, hstands⟩)
  exact Option.bind_eq_some_iff.mpr
    ⟨Text.trimmed name, hfirst, toOption_find_eq_some.mpr hstands⟩

theorem Loads.setup_theme {theme : Theme} (h : l.Loads d .theme name theme l' d')
    (same : l.SameResources d d') : l'.setup d' = { l.setup d with theme := theme } := by
  have hgrammar := preferredModel?_congr h.directories same.grammar (h.text?_of_ne (by decide))
  have htoggle : l'.settings.bool? Session.smartSubstitutionSetting = _ :=
    h.bool?_of_ne (by decide)
  unfold setup
  rw [h.preferredModel? same.theme, hgrammar, htoggle]
  rfl

theorem Loads.setup_grammar {grammar : Grammar} (h : l.Loads d .grammar name grammar l' d')
    (same : l.SameResources d d') : l'.setup d' = { l.setup d with grammar := grammar } := by
  have htheme := preferredModel?_congr h.directories same.theme (h.text?_of_ne (by decide))
  have htoggle : l'.settings.bool? Session.smartSubstitutionSetting = _ :=
    h.bool?_of_ne (by decide)
  unfold setup
  rw [h.preferredModel? same.grammar, htheme, htoggle]
  rfl

theorem loadPreferred_model (l : Library) (d : Disk) (kind : ResourceKind α) :
    (l.loadPreferred d kind).2.2 = l.preferredModel? d kind := by
  rcases hload : l.loadPreferred d kind with ⟨l', d', _ | value⟩
  · obtain ⟨hmissing, -⟩ := loadPreferred_of_none hload
    unfold preferredModel?
    rw [hmissing]
    rfl
  · obtain ⟨name, hfound, hloads⟩ := loads_of_loadPreferred hload
    unfold preferredModel?
    rw [hfound]
    exact (toOption_find_eq_some.mpr hloads.model).symm

/-- The library and the disk after the preferred one of a kind has been loaded. -/
def afterLoad (l : Library) (d : Disk) (kind : ResourceKind α) : Library × Disk :=
  ((l.loadPreferred d kind).1, (l.loadPreferred d kind).2.1)

theorem afterLoad_cases (l : Library) (d : Disk) (kind : ResourceKind α) :
    (∃ name value, l.preferredModel? d kind = some value ∧
      l.Loads d kind name value (l.afterLoad d kind).1 (l.afterLoad d kind).2) ∨
    l.preferredModel? d kind = none ∧ l.afterLoad d kind = (l, d) := by
  rw [← loadPreferred_model]
  unfold afterLoad
  rcases hload : l.loadPreferred d kind with ⟨l', d', _ | value⟩
  · obtain ⟨-, rfl, rfl⟩ := loadPreferred_of_none hload
    exact .inr ⟨rfl, rfl⟩
  · obtain ⟨name, -, hloads⟩ := loads_of_loadPreferred hload
    exact .inl ⟨name, value, rfl, hloads⟩

theorem directories_afterLoad (l : Library) (d : Disk) (kind : ResourceKind α) :
    (l.afterLoad d kind).1.directories = l.directories := by
  obtain ⟨_, _, -, hloads⟩ | ⟨-, hsame⟩ := l.afterLoad_cases d kind
  · exact hloads.directories
  · rw [hsame]

theorem setup_afterLoad_theme (same : l.SameResources d (l.afterLoad d .theme).2) :
    (l.afterLoad d .theme).1.setup (l.afterLoad d .theme).2 = l.setup d := by
  obtain ⟨_, theme, hmodel, hloads⟩ | ⟨-, hsame⟩ := l.afterLoad_cases d .theme
  · rw [hloads.setup_theme same]
    unfold setup
    rw [hmodel]
    rfl
  · rw [hsame]

theorem setup_afterLoad_grammar (same : l.SameResources d (l.afterLoad d .grammar).2) :
    (l.afterLoad d .grammar).1.setup (l.afterLoad d .grammar).2 = l.setup d := by
  obtain ⟨_, grammar, hmodel, hloads⟩ | ⟨-, hsame⟩ := l.afterLoad_cases d .grammar
  · rw [hloads.setup_grammar same]
    unfold setup
    rw [hmodel]
    rfl
  · rw [hsame]

/-! ## The file of the settings -/

theorem Loads.keptIn {file : Path} (loads : l.Loads d kind name value l' d')
    (h : l.settings.KeptIn d file) (saved : (l'.settings.saved? d).isOk = true) :
    l'.settings.KeptIn d' file := by
  rw [loads.disk]
  rw [loads.settings] at saved ⊢
  exact h.set kind.setting (.text _ (Text.trimmed name)) saved

theorem keptIn_afterLoad {file : Path} (h : l.settings.KeptIn d file)
    (writes : (l.preferredModel? d kind).isSome = true →
      ((l.afterLoad d kind).1.settings.saved? d).isOk = true) :
    (l.afterLoad d kind).1.settings.KeptIn (l.afterLoad d kind).2 file := by
  obtain ⟨_, value, hmodel, hloads⟩ | ⟨-, hsame⟩ := l.afterLoad_cases d kind
  · exact hloads.keptIn h (writes (by rw [hmodel]; rfl))
  · rw [hsame]
    exact h

end Library

end CodeEditor
