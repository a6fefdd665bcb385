import CodeEditor.Library
import CodeEditor.Proofs.Text.Parts

/-! # What names stand for

A name stands for what the first of its files reads as, and for what is at hand when it has no file. What
is loaded under a name is what it stands for, and the name is then the current and the preferred one.
-/

namespace CodeEditor

namespace Library

variable {α : Type}

@[simp] theorem isName_trimmed (name : String) : isName (Text.trimmed name) = isName name := by
  unfold isName
  rw [Text.trimmed_trimmed]

theorem trimmed_ne_of_isName {name : String} (valid : isName name = true) :
    Text.trimmed name ≠ "" := by
  unfold isName at valid
  simp only [Bool.and_eq_true, bne_iff_ne] at valid
  exact valid.1.1.1.1

/-! ## Finding -/

inductive StandsFor (l : Library) (d : Disk) (kind : ResourceKind α) (name : String) (value : α) :
    Prop where
  | file (before : List Path) (file : Path) (after : List Path) (text : List Char)
      (valid : isName name = true) (places : l.candidates kind name = before ++ file :: after)
      (passed : ∀ p ∈ before, d.isFile p = false) (found : d.isFile file = true)
      (holds : d.readText file = .ok text)
      (reads : kind.parse? text (Text.trimmed name) = some value)
  | atHand (valid : isName name = true) (passed : ∀ p ∈ l.candidates kind name, d.isFile p = false)
      (known : kind.builtin.lookup (Text.trimmed name) = some value)

variable {l : Library} {d : Disk} {kind : ResourceKind α} {name : String} {value : α}

theorem standsFor_of_find (h : l.find d kind name = .ok value) : l.StandsFor d kind name value := by
  unfold find at h
  split at h
  · cases h
  · next hvalid =>
    have valid : isName name = true := by simpa using hvalid
    simp only at h
    split at h
    · next file hfile =>
      obtain ⟨found, before, after, places, passed⟩ := List.find?_eq_some_iff_append.mp hfile
      split at h
      · cases h
      · next text holds =>
        split at h
        · next reads =>
          cases h
          exact .file before file after text valid places
            (fun p hp => by simpa using passed p hp) found holds reads
        · cases h
    · next hnone =>
      split at h
      · next known =>
        cases h
        exact .atHand valid (fun p hp => by simpa using List.find?_eq_none.mp hnone p hp) known
      · cases h

theorem find_of_standsFor (h : l.StandsFor d kind name value) : l.find d kind name = .ok value := by
  unfold find
  cases h with
  | file before file after text valid places passed found holds reads =>
    have hfind : (l.candidates kind name).find? d.isFile = some file := by
      rw [List.find?_eq_some_iff_append]
      exact ⟨found, before, after, places, fun p hp => by simpa using passed p hp⟩
    simp only [valid, hfind, holds, reads, Bool.not_true, Bool.false_eq_true, if_false]
  | atHand valid passed known =>
    have hfind : (l.candidates kind name).find? d.isFile = none := by
      rw [List.find?_eq_none]
      exact fun p hp => by simpa using passed p hp
    simp only [valid, hfind, known, Bool.not_true, Bool.false_eq_true, if_false]

theorem find_eq_ok_iff : l.find d kind name = .ok value ↔ l.StandsFor d kind name value :=
  ⟨standsFor_of_find, find_of_standsFor⟩

/-- The files that names of a kind can stand for are the same on both disks. -/
def SameFiles (l : Library) (kind : ResourceKind α) (d d' : Disk) : Prop :=
  ∀ name, isName name = true → ∀ p ∈ l.candidates kind name,
    d'.isFile p = d.isFile p ∧ d'.readText p = d.readText p

theorem SameFiles.symm {d' : Disk} (h : l.SameFiles kind d d') : l.SameFiles kind d' d := by
  intro name valid p hp
  obtain ⟨hfile, htext⟩ := h name valid p hp
  exact ⟨hfile.symm, htext.symm⟩

theorem StandsFor.congr {l' : Library} {d' : Disk} {name' : String}
    (h : l.StandsFor d kind name value) (directories : l'.directories = l.directories)
    (same : l.SameFiles kind d d') (names : Text.trimmed name' = Text.trimmed name) :
    l'.StandsFor d' kind name' value := by
  have hvalid : isName name' = isName name := by
    rw [← isName_trimmed name', names, isName_trimmed]
  have hplaces : l'.candidates kind name' = l.candidates kind name := by
    unfold candidates
    rw [directories, names]
  cases h with
  | file before file after text valid places passed found holds reads =>
    have hsame := same name valid
    rw [places] at hsame
    refine .file before file after text (hvalid.trans valid) (hplaces.trans places) ?_ ?_ ?_ ?_
    · intro p hp
      rw [(hsame p (List.mem_append_left _ hp)).1]
      exact passed p hp
    · rw [(hsame file (List.mem_append_right _ List.mem_cons_self)).1]
      exact found
    · rw [(hsame file (List.mem_append_right _ List.mem_cons_self)).2]
      exact holds
    · rw [names]
      exact reads
  | atHand valid passed known =>
    refine .atHand (hvalid.trans valid) ?_ ?_
    · intro p hp
      rw [hplaces] at hp
      rw [(same name valid p hp).1]
      exact passed p hp
    · rw [names]
      exact known

theorem StandsFor.unique {other : α} (h : l.StandsFor d kind name value)
    (h' : l.StandsFor d kind name other) : value = other := by
  have hfind := find_of_standsFor h
  rw [find_of_standsFor h'] at hfind
  cases hfind
  rfl

/-! ## Loading -/

/-- What is left of a library and a disk after something has been loaded under a name. -/
structure Loads (l : Library) (d : Disk) (kind : ResourceKind α) (name : String) (value : α)
    (l' : Library) (d' : Disk) : Prop where
  model : l.StandsFor d kind name value
  directories : l'.directories = l.directories
  loaded : l'.loaded = l.loaded.insert kind.label (Text.trimmed name)
  settings : l'.settings = (l.settings.setText d kind.setting (Text.trimmed name)).1
  disk : d' = l'.settings.save d

theorem load_of_standsFor (h : l.StandsFor d kind name value) :
    ∃ l' d', l.load d kind name = (l', d', some value) ∧ l.Loads d kind name value l' d' := by
  have hload : l.load d kind name =
      ({ l with
        settings := (l.settings.setText d kind.setting (Text.trimmed name)).1
        loaded := l.loaded.insert kind.label (Text.trimmed name) },
      (l.settings.setText d kind.setting (Text.trimmed name)).2, some value) := by
    unfold load
    rw [find_of_standsFor h]
  exact ⟨_, _, hload, h, rfl, rfl, rfl, rfl⟩

theorem loads_of_load {l' : Library} {d' : Disk} (h : l.load d kind name = (l', d', some value)) :
    l.Loads d kind name value l' d' := by
  unfold load at h
  split at h
  · cases h
  · next found =>
    cases h
    exact ⟨standsFor_of_find found, rfl, rfl, rfl, rfl⟩

theorem load_of_none (failed : (l.load d kind name).2.2 = none) :
    l.load d kind name = (l, d, none) := by
  unfold load at failed ⊢
  split
  · rfl
  · next found =>
    rw [found] at failed
    cases failed

theorem load_of_not_standsFor (h : ∀ value, ¬ l.StandsFor d kind name value) :
    l.load d kind name = (l, d, none) := by
  apply load_of_none
  rcases hload : l.load d kind name with ⟨l', d', _ | value⟩
  · rfl
  · exact absurd (loads_of_load hload).model (h value)

theorem Loads.current? {l' : Library} {d' : Disk} (h : l.Loads d kind name value l' d') :
    l'.current? kind = some (Text.trimmed name) := by
  unfold Library.current?
  rw [h.loaded, Dictionary.find?_insert, if_pos rfl]

theorem Loads.find?_settings {l' : Library} {d' : Disk} (h : l.Loads d kind name value l' d')
    (setting : String) :
    l'.settings.values.find? setting =
      if kind.setting = setting then some (.text (some (Text.trimmed name)))
      else l.settings.values.find? setting := by
  rw [h.settings]
  exact Dictionary.find?_insert _ _ _ _

theorem Loads.text?_setting {l' : Library} {d' : Disk} (h : l.Loads d kind name value l' d') :
    l'.settings.text? kind.setting = some (Text.trimmed name) := by
  unfold Settings.text?
  rw [h.find?_settings, if_pos rfl]

/-! ## Loading what is preferred -/

/-- The names that are tried at the start, in order. -/
def choices (l : Library) (kind : ResourceKind α) : List String :=
  (l.preferred? kind).toList ++ [kind.standard]

/-- The first of some names that stands for anything. -/
def firstFound? (l : Library) (d : Disk) (kind : ResourceKind α) (names : List String) :
    Option String :=
  names.find? fun name => (l.find d kind name).isOk

theorem isOk_find_iff : (l.find d kind name).isOk = true ↔ ∃ value, l.StandsFor d kind name value := by
  cases hfind : l.find d kind name with
  | ok value => exact ⟨fun _ => ⟨value, standsFor_of_find hfind⟩, fun _ => rfl⟩
  | error cause =>
    constructor
    · nofun
    · rintro ⟨value, h⟩
      rw [find_of_standsFor h] at hfind
      cases hfind

theorem standsFor_of_firstFound {names : List String}
    (h : l.firstFound? d kind names = some name) :
    name ∈ names ∧ ∃ value, l.StandsFor d kind name value := by
  unfold firstFound? at h
  have hok := List.find?_some h
  exact ⟨List.mem_of_find?_eq_some h, isOk_find_iff.mp hok⟩

theorem load_eq_of_isOk (l : Library) (d : Disk) (kind : ResourceKind α) (name : String) :
    l.load d kind name =
      if (l.find d kind name).isOk then l.load d kind name else (l, d, none) := by
  split
  · rfl
  · next failed =>
    refine load_of_not_standsFor fun value h => ?_
    exact failed (isOk_find_iff.mpr ⟨value, h⟩)

theorem loadPreferred_eq (l : Library) (d : Disk) (kind : ResourceKind α) :
    l.loadPreferred d kind =
      match l.firstFound? d kind (l.choices kind) with
      | some name => l.load d kind name
      | none => (l, d, none) := by
  have hstandard : l.load d kind kind.standard =
      match [kind.standard].find? (fun name => (l.find d kind name).isOk) with
      | some name => l.load d kind name
      | none => (l, d, none) := by
    rw [load_eq_of_isOk, List.find?_singleton]
    cases (l.find d kind kind.standard).isOk <;> rfl
  unfold loadPreferred choices firstFound?
  cases l.preferred? kind with
  | none =>
    simp only [Option.toList_none, List.nil_append]
    rw [← hstandard]
  | some name =>
    simp only [Option.toList_some, List.singleton_append]
    cases hfound : (l.find d kind name).isOk with
    | true =>
      obtain ⟨value, h⟩ := isOk_find_iff.mp hfound
      obtain ⟨l', d', hload, -⟩ := load_of_standsFor h
      have hfirst : [name, kind.standard].find? (fun name => (l.find d kind name).isOk) =
          some name := List.find?_cons_of_pos hfound
      rw [hfirst]
      simp only [hload]
    | false =>
      have hload : l.load d kind name = (l, d, none) := by
        rw [load_eq_of_isOk, hfound]
        rfl
      have hsecond : [name, kind.standard].find? (fun name => (l.find d kind name).isOk) =
          [kind.standard].find? (fun name => (l.find d kind name).isOk) :=
        List.find?_cons_of_neg (by rw [hfound]; exact Bool.false_ne_true)
      rw [hsecond]
      simp only [hload]
      rw [← hstandard]

theorem loads_of_loadPreferred {l' : Library} {d' : Disk}
    (h : l.loadPreferred d kind = (l', d', some value)) :
    ∃ name, l.firstFound? d kind (l.choices kind) = some name ∧ l.Loads d kind name value l' d' := by
  rw [loadPreferred_eq] at h
  split at h
  · next name found => exact ⟨name, found, loads_of_load h⟩
  · cases h

theorem loadPreferred_of_none {l' : Library} {d' : Disk}
    (h : l.loadPreferred d kind = (l', d', none)) :
    l.firstFound? d kind (l.choices kind) = none ∧ l' = l ∧ d' = d := by
  rw [loadPreferred_eq] at h
  split at h
  · next name found =>
    obtain ⟨-, value, hvalue⟩ := standsFor_of_firstFound found
    obtain ⟨_, _, hload, -⟩ := load_of_standsFor hvalue
    rw [hload] at h
    cases h
  · next missing =>
    cases h
    exact ⟨missing, rfl, rfl⟩

end Library

end CodeEditor
