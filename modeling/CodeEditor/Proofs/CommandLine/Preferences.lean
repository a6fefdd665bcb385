import CodeEditor.Proofs.CommandLine.Highlighting
import CodeEditor.Proofs.Library

/-! # What a failed command prefers

A command that highlights a file loads a theme and then a grammar. A name on the command line is looked
up, and the settings stay as they are; without a name the preferred one is loaded, and is kept in the
settings again. So a command that fails leaves the settings alone, unless it fails for the grammar after
a theme has been loaded without being named.
-/

namespace CodeEditor.CommandLine

variable {α : Type} {c : Config} {d d' : Disk} {l l' : Library} {kind : ResourceKind α}
  {file : Path} {name? theme? grammar? : Option String} {markers : List String} {mode : CaseMode}
  {failure : Failure}

/-- Highlighting, with the library that is left after it. -/
def highlighting (c : Config) (d : Disk) (l : Library) (file : Path)
    (theme grammar : Option String) (markers : List String) (mode : CaseMode) :
    Library × Disk × Except Failure (List Char) :=
  match d.readText file with
  | .error cause => (l, d, .error (.unreadable file cause))
  | .ok text =>
    match choose d l .theme theme with
    | (l, d, .error failure) => (l, d, .error failure)
    | (l, d, .ok theme) =>
      match choose d l .grammar grammar with
      | (l, d, .error failure) => (l, d, .error failure)
      | (l, d, .ok grammar) =>
        (l, d, .ok (Terminal.render (styled c theme grammar markers mode text)))

theorem highlighting_snd (c : Config) (d : Disk) (l : Library) (file : Path)
    (theme? grammar? : Option String) (markers : List String) (mode : CaseMode) :
    (highlighting c d l file theme? grammar? markers mode).2 =
      highlight c d l file theme? grammar? markers mode := by
  unfold highlighting highlight
  cases d.readText file with
  | error cause => rfl
  | ok text =>
    rcases choose d l .theme theme? with ⟨l₁, d₁, failure | theme⟩
    · rfl
    · rcases hgrammar : choose d₁ l₁ .grammar grammar? with ⟨l₂, d₂, failure | grammar⟩
      · simp only [hgrammar]
      · simp only [hgrammar]

/-! ## Choosing -/

theorem choose_of_error (failed : (choose d l kind name?).2.2 = .error failure) :
    choose d l kind name? = (l, d, .error failure) := by
  unfold choose at failed ⊢
  cases name? with
  | some name =>
    cases hfind : l.find d kind name with
    | ok value =>
      simp only [hfind] at failed
      cases failed
    | error cause =>
      simp only [hfind] at failed ⊢
      cases failed
      rfl
  | none =>
    rcases hload : l.loadPreferred d kind with ⟨l', d', _ | value⟩
    · obtain ⟨-, rfl, rfl⟩ := Library.loadPreferred_of_none hload
      simp only [hload] at failed ⊢
      cases failed
      rfl
    · simp only [hload] at failed
      cases failed

theorem choose_named {name : String} {value : α}
    (h : choose d l kind (some name) = (l', d', .ok value)) : l' = l ∧ d' = d := by
  unfold choose at h
  cases hfind : l.find d kind name with
  | ok found =>
    simp only [hfind] at h
    cases h
    exact ⟨rfl, rfl⟩
  | error cause =>
    simp only [hfind] at h
    cases h

theorem choose_unnamed {value : α} (h : choose d l kind none = (l', d', .ok value)) :
    ∃ name, l.firstFound? d kind (l.choices kind) = some name ∧ l.Loads d kind name value l' d' := by
  unfold choose at h
  rcases hload : l.loadPreferred d kind with ⟨l₁, d₁, _ | found⟩
  · simp only [hload] at h
    cases h
  · simp only [hload] at h
    cases h
    exact Library.loads_of_loadPreferred hload

theorem firstFound?_of_error (failed : (choose d l kind none).2.2 = .error failure) :
    l.firstFound? d kind (l.choices kind) = none := by
  unfold choose at failed
  rcases hload : l.loadPreferred d kind with ⟨l₁, d₁, _ | found⟩
  · exact (Library.loadPreferred_of_none hload).1
  · simp only [hload] at failed
    cases failed

/-! ## Failing -/

/-- The theme that is loaded without being named. -/
def unnamedTheme? (d : Disk) (l : Library) (file : Path) (theme? : Option String) : Option String :=
  match theme?, d.readText file with
  | none, .ok _ => l.firstFound? d .theme (l.choices .theme)
  | _, _ => none

theorem highlighting_of_error
    (failed : (highlighting c d l file theme? grammar? markers mode).2.2 = .error failure) :
    highlighting c d l file theme? grammar? markers mode = (l, d, .error failure) ∧
        unnamedTheme? d l file theme? = none ∨
      ∃ name theme l' d',
        highlighting c d l file theme? grammar? markers mode = (l', d', .error failure) ∧
          unnamedTheme? d l file theme? = some name ∧ l.Loads d .theme name theme l' d' ∧
          (choose d' l' .grammar grammar?).2.2 = .error failure := by
  unfold highlighting at failed ⊢
  unfold unnamedTheme?
  cases hread : d.readText file with
  | error cause =>
    simp only [hread] at failed ⊢
    cases failed
    exact .inl ⟨rfl, trivial⟩
  | ok text =>
    simp only [hread] at failed ⊢
    rcases htheme : choose d l .theme theme? with ⟨l₁, d₁, cause | theme⟩
    · -- Without a theme.
      simp only [htheme] at failed ⊢
      cases failed
      have hnone : (choose d l .theme theme?).2.2 = .error failure := by rw [htheme]
      cases htheme.symm.trans (choose_of_error hnone)
      left
      cases theme? with
      | some name => exact ⟨rfl, rfl⟩
      | none => exact ⟨rfl, firstFound?_of_error hnone⟩
    · simp only [htheme] at failed ⊢
      rcases hgrammar : choose d₁ l₁ .grammar grammar? with ⟨l₂, d₂, cause | grammar⟩
      · -- With a theme, but without a grammar.
        simp only [hgrammar] at failed ⊢
        cases failed
        have hnone : (choose d₁ l₁ .grammar grammar?).2.2 = .error failure := by rw [hgrammar]
        cases hgrammar.symm.trans (choose_of_error hnone)
        cases theme? with
        | some name =>
          obtain ⟨rfl, rfl⟩ := choose_named htheme
          exact .inl ⟨rfl, rfl⟩
        | none =>
          obtain ⟨name, hfound, hloads⟩ := choose_unnamed htheme
          exact .inr ⟨name, theme, l₁, d₁, rfl, hfound, hloads, hnone⟩
      · simp only [hgrammar] at failed
        cases failed

/-- The library and the disk after a failure. -/
structure AfterFailure (d : Disk) (l : Library) (file : Path) (theme? grammar? : Option String)
    (failure : Failure) (l' : Library) (d' : Disk) : Prop where
  /-- Nothing at all has changed, unless a theme has been loaded without being named. -/
  untouched : unnamedTheme? d l file theme? = none → l' = l ∧ d' = d
  /-- If one has, the grammar is what has failed, and the theme is kept as the preferred one. -/
  theme : ∀ name, unnamedTheme? d l file theme? = some name →
    (choose d' l' .grammar grammar?).2.2 = .error failure ∧
      (l'.settings, d') = l.settings.setText d ResourceKind.theme.setting (Text.trimmed name)
  others : ∀ setting, setting ≠ ResourceKind.theme.setting →
    l'.settings.values.find? setting = l.settings.values.find? setting
  /-- All settings do, if that theme has been the preferred one before. -/
  all : (∀ setting, l'.settings.values.find? setting = l.settings.values.find? setting) ↔
    ∀ name, unnamedTheme? d l file theme? = some name →
      l.settings.values.find? ResourceKind.theme.setting = some (.text (some (Text.trimmed name)))

theorem afterFailure_of_untouched (h : unnamedTheme? d l file theme? = none) :
    AfterFailure d l file theme? grammar? failure l d where
  untouched _ := ⟨rfl, rfl⟩
  theme name hname := by
    rw [h] at hname
    cases hname
  others _ _ := rfl
  all := by
    refine iff_of_true (fun _ => rfl) ?_
    intro name hname
    rw [h] at hname
    cases hname

theorem afterFailure_of_loads {name : String} {theme : Theme}
    (h : unnamedTheme? d l file theme? = some name) (loads : l.Loads d .theme name theme l' d')
    (failed : (choose d' l' .grammar grammar?).2.2 = .error failure) :
    AfterFailure d l file theme? grammar? failure l' d' where
  untouched hnone := by
    rw [h] at hnone
    cases hnone
  theme name' hname := by
    cases h.symm.trans hname
    refine ⟨failed, ?_⟩
    rw [loads.disk, loads.settings]
    rfl
  others setting other := by
    rw [loads.find?_settings, if_neg (Ne.symm other)]
  all := by
    constructor
    · intro hall name' hname
      cases h.symm.trans hname
      rw [← hall, loads.find?_settings, if_pos rfl]
    · intro hkept setting
      rw [loads.find?_settings]
      split
      · next hsetting => rw [← hsetting, hkept name h]
      · rfl

/-- A command that fails leaves the settings as they are, in memory and on the disk; only a theme that it
has loaded without being given its name is kept as the preferred one. -/
theorem failed_highlighting_keeps_settings
    (failed : (highlight c d l file theme? grammar? markers mode).2 = .error failure) :
    let left := highlighting c d l file theme? grammar? markers mode
    left.2 = highlight c d l file theme? grammar? markers mode ∧
      AfterFailure d l file theme? grammar? failure left.1 left.2.1 := by
  refine ⟨highlighting_snd c d l file theme? grammar? markers mode, ?_⟩
  rw [← highlighting_snd] at failed
  rcases highlighting_of_error failed with
    ⟨hleft, hnone⟩ | ⟨name, theme, l', d', hleft, hname, hloads, hgrammar⟩
  · rw [hleft]
    exact afterFailure_of_untouched hnone
  · rw [hleft]
    exact afterFailure_of_loads hname hloads hgrammar

theorem failed_highlighting_keeps_settings_without_grammar :
    let e : Environment := ⟨[("HOME", "home")], ⟨"/"⟩⟩
    let d : Disk := ⟨[(["f"], .file [120] false)], []⟩
    let failure := Failure.resource (.notFound "grammar" "Nope")
    let left := highlighting (.ofEnvironment e) d (opened e d []) ⟨"f"⟩ none (some "Nope") [] .sensitive
    (highlight (.ofEnvironment e) d (opened e d []) ⟨"f"⟩ none (some "Nope") [] .sensitive).2 =
        .error failure ∧
      left.2 = highlight (.ofEnvironment e) d (opened e d []) ⟨"f"⟩ none (some "Nope") [] .sensitive ∧
      AfterFailure d (opened e d []) ⟨"f"⟩ none (some "Nope") failure left.1 left.2.1 := by
  intro e d failure left
  have failed : (highlight (.ofEnvironment e) d (opened e d []) ⟨"f"⟩ none (some "Nope") []
      .sensitive).2 = .error failure := by decide +kernel
  clear_value failure d e
  exact ⟨failed, failed_highlighting_keeps_settings failed⟩

/-- The settings are not always what they were: the standard theme is the preferred one after it has been
loaded, though there is no grammar. -/
theorem failed_highlighting_prefers_theme :
    ¬ ∀ (c : Config) (d : Disk) (l : Library) (file : Path) (theme? grammar? : Option String)
        (markers : List String) (mode : CaseMode) (failure : Failure),
      (highlight c d l file theme? grammar? markers mode).2 = .error failure →
        (highlighting c d l file theme? grammar? markers mode).1.settings = l.settings := by
  intro h
  generalize he : (⟨[("HOME", "home")], ⟨"/"⟩⟩ : Environment) = e
  generalize hd : (⟨[(["f"], .file [120] false)], []⟩ : Disk) = d
  have failed : (highlight (.ofEnvironment e) d (opened e d []) ⟨"f"⟩ none (some "Nope") []
      .sensitive).2 = .error (.resource (.notFound "grammar" "Nope")) := by
    subst he hd
    decide +kernel
  have hbefore : (opened e d []).settings.text? "preferredTheme" = none := by
    subst he hd
    decide +kernel
  have hafter : (highlighting (.ofEnvironment e) d (opened e d []) ⟨"f"⟩ none (some "Nope") []
      .sensitive).1.settings.text? "preferredTheme" = some "Default" := by
    subst he hd
    decide +kernel
  rw [h _ _ _ _ _ _ _ _ _ failed, hbefore] at hafter
  cases hafter

end CodeEditor.CommandLine
