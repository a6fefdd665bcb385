import CodeEditor.Proofs.Dictionary
import CodeEditor.Proofs.Disk
import CodeEditor.Proofs.Library

/-! # The menu of names

The names of a kind are listed in order. What is listed and what can be loaded are not the same: a name
is listed for whatever stands in a directory with the extension, but only a regular file under a name
without blanks around it is found.
-/

namespace CodeEditor

namespace ResourceKind

/-- The extension of a kind is a single one. -/
structure Plain {α : Type} (kind : ResourceKind α) : Prop where
  dot : '.' ∉ kind.fileExtension.toList
  slash : '/' ∉ kind.fileExtension.toList

theorem plain_theme : theme.Plain := ⟨by decide, by decide⟩

theorem plain_grammar : grammar.Plain := ⟨by decide, by decide⟩

end ResourceKind

namespace Library

variable {α : Type} {l : Library} {d : Disk} {kind : ResourceKind α} {name : String}

/-- The name of the file for a name. -/
def fileName (kind : ResourceKind α) (name : String) : String := name ++ "." ++ kind.fileExtension

/-- There is something to load under the name, though it may turn out to be malformed. -/
def Resolves (l : Library) (d : Disk) (kind : ResourceKind α) (name : String) : Prop :=
  ∀ label shown, l.find d kind name ≠ .error (.notFound label shown)

/-! ## What is listed -/

theorem mem_namesIn {directory : Path} (plain : kind.Plain) :
    name ∈ namesIn kind d directory ↔
      name ≠ "" ∧ ∃ files, d.list directory = .ok files ∧ fileName kind name ∈ files := by
  unfold namesIn
  cases d.list directory with
  | error cause =>
    constructor
    · nofun
    · rintro ⟨-, files, ⟨⟩, -⟩
  | ok files =>
    rw [List.mem_filterMap]
    constructor
    · rintro ⟨file, hfile, hname⟩
      split at hname
      · next stem extension hsplit =>
        split at hname
        · next same =>
          cases hname
          obtain ⟨hstem, -, rfl⟩ := Path.splitExtension_eq_iff.mp hsplit
          rw [same] at hfile
          exact ⟨hstem, files, rfl, hfile⟩
        · cases hname
      · cases hname
    · rintro ⟨hname, _, ⟨⟩, hmem⟩
      refine ⟨_, hmem, ?_⟩
      rw [fileName, Path.splitExtension_eq_iff.mpr ⟨hname, plain.dot, rfl⟩]
      exact if_pos rfl

theorem available_eq (l : Library) (d : Disk) (kind : ResourceKind α) :
    l.available d kind =
      (Dictionary.ofList ((kind.builtin.map (·.1) ++ l.directories.flatMap (namesIn kind d)).map
        (·, ()))).names := rfl

theorem sorted_available (l : Library) (d : Disk) (kind : ResourceKind α) :
    (l.available d kind).Pairwise (· < ·) := by
  rw [available_eq]
  exact Dictionary.ascending_ofList _

theorem mem_available (plain : kind.Plain) :
    name ∈ l.available d kind ↔
      name ∈ kind.builtin.map (·.1) ∨ ∃ directory ∈ l.directories,
        name ≠ "" ∧ ∃ files, d.list directory = .ok files ∧ fileName kind name ∈ files := by
  rw [available_eq, Dictionary.mem_names_ofList, List.map_map]
  simp only [Function.comp_def, List.map_id', List.mem_append, List.mem_flatMap, mem_namesIn plain]

/-! ## What can be loaded -/

theorem mem_candidates {p : Path} :
    p ∈ l.candidates kind name ↔
      ∃ directory ∈ l.directories, directory.join ⟨fileName kind (Text.trimmed name)⟩ = p :=
  List.mem_map

theorem lookup_isSome_iff {table : List (String × α)} :
    (table.lookup name).isSome = true ↔ name ∈ table.map (·.1) := by
  rw [← not_iff_not, Bool.not_eq_true, Option.isSome_eq_false_iff, Option.isNone_iff_eq_none,
    List.lookup_eq_none_iff]
  simp only [bne_iff_ne, List.mem_map, not_exists, not_and]
  exact ⟨fun h p hp same => h p hp same.symm, fun h p hp same => h p hp same.symm⟩

theorem resolves_iff :
    l.Resolves d kind name ↔ isName name = true ∧
      ((∃ directory ∈ l.directories,
        d.isFile (directory.join ⟨fileName kind (Text.trimmed name)⟩) = true) ∨
          Text.trimmed name ∈ kind.builtin.map (·.1)) := by
  unfold Resolves find
  cases hvalid : isName name with
  | false =>
    refine ⟨fun h => absurd rfl (h kind.label name), ?_⟩
    rintro ⟨⟨⟩, -⟩
  | true =>
    have hfile : (∃ directory ∈ l.directories,
        d.isFile (directory.join ⟨fileName kind (Text.trimmed name)⟩) = true) ↔
          ∃ p ∈ l.candidates kind name, d.isFile p = true := by
      simp only [mem_candidates]
      constructor
      · rintro ⟨directory, hdirectory, h⟩
        exact ⟨_, ⟨directory, hdirectory, rfl⟩, h⟩
      · rintro ⟨_, ⟨directory, hdirectory, rfl⟩, h⟩
        exact ⟨directory, hdirectory, h⟩
    rw [hfile, ← List.find?_isSome, ← lookup_isSome_iff]
    simp only [Bool.not_true, Bool.false_eq_true, if_false, true_and]
    cases (l.candidates kind name).find? d.isFile with
    | some file =>
      refine ⟨fun _ => .inl rfl, fun _ label shown missing => ?_⟩
      simp only at missing
      split at missing
      · cases missing
      · split at missing <;> cases missing
    | none =>
      cases kind.builtin.lookup (Text.trimmed name) with
      | some value => exact ⟨fun _ => .inr rfl, fun _ label shown => nofun⟩
      | none =>
        refine ⟨fun h => absurd rfl (h kind.label (Text.trimmed name)), ?_⟩
        rintro (⟨⟨⟩⟩ | ⟨⟨⟩⟩)

theorem isStep_fileName (plain : kind.Plain) (valid : isName name = true) :
    Path.IsStep (fileName kind (Text.trimmed name)) ∧
      fileName kind (Text.trimmed name) ≠ "." ∧ fileName kind (Text.trimmed name) ≠ ".." := by
  unfold isName at valid
  simp only [Bool.and_eq_true, bne_iff_ne, Bool.not_eq_true', List.contains_eq_mem,
    decide_eq_false_iff_not] at valid
  obtain ⟨⟨⟨⟨hempty, hdot⟩, -⟩, hslash⟩, -⟩ := valid
  have hlist : (fileName kind (Text.trimmed name)).toList =
      (Text.trimmed name).toList ++ '.' :: kind.fileExtension.toList := by simp [fileName]
  obtain ⟨c, cs, hname⟩ := List.exists_cons_of_ne_nil
    (mt String.toList_eq_nil_iff.mp hempty)
  refine ⟨⟨?_, ?_⟩, ?_, ?_⟩
  · intro h
    rw [h, hname] at hlist
    cases hlist
  · rw [hlist, List.mem_append, List.mem_cons]
    rintro (h | h | h)
    · exact hslash h
    · cases h
    · exact plain.slash h
  · intro h
    rw [h, hname] at hlist
    simp at hlist
  · intro h
    rw [h, hname] at hlist
    -- With two dots the name would be one dot, which is no name.
    cases cs with
    | nil =>
      obtain ⟨rfl, -⟩ : '.' = c ∧ kind.fileExtension = "" := by simpa using hlist
      exact hdot (String.toList_injective hname)
    | cons c' cs' => simp at hlist

theorem mem_available_of_resolves (plain : kind.Plain) (h : l.Resolves d kind name) :
    Text.trimmed name ∈ l.available d kind ∨ ∃ directory ∈ l.directories,
      directory.text = "" ∧ d.isFile ⟨fileName kind (Text.trimmed name)⟩ = true := by
  obtain ⟨valid, ⟨directory, hdirectory, found⟩ | builtin⟩ := resolves_iff.mp h
  · by_cases path : directory.text = ""
    · refine .inr ⟨directory, hdirectory, path, ?_⟩
      unfold Path.join at found
      rw [path, BEq.rfl, Bool.or_true, if_pos rfl] at found
      exact found
    · left
      obtain ⟨step, here, up⟩ := isStep_fileName plain valid
      exact (mem_available plain).mpr (.inr ⟨directory, hdirectory, trimmed_ne_of_isName valid,
        Disk.exists_list_of_isFile_join path step here up found⟩)
  · exact .inl ((mem_available plain).mpr (.inl builtin))

/-! ## The menu against the files -/

/-- What the menu shows, and what it has to do with what can be loaded. -/
structure Menu (l : Library) (d : Disk) (kind : ResourceKind α) : Prop where
  sorted : (l.available d kind).Pairwise (· < ·)
  listed : ∀ name, name ∈ l.available d kind ↔
    name ∈ kind.builtin.map (·.1) ∨ ∃ directory ∈ l.directories,
      name ≠ "" ∧ ∃ files, d.list directory = .ok files ∧ fileName kind name ∈ files
  resolves : ∀ name, l.Resolves d kind name ↔ isName name = true ∧
    ((∃ directory ∈ l.directories,
      d.isFile (directory.join ⟨fileName kind (Text.trimmed name)⟩) = true) ∨
        Text.trimmed name ∈ kind.builtin.map (·.1))
  complete : ∀ name, l.Resolves d kind name → Text.trimmed name ∈ l.available d kind ∨
    ∃ directory ∈ l.directories,
      directory.text = "" ∧ d.isFile ⟨fileName kind (Text.trimmed name)⟩ = true

theorem menu (plain : kind.Plain) (l : Library) (d : Disk) : l.Menu d kind where
  sorted := sorted_available l d kind
  listed _ := mem_available plain
  resolves _ := resolves_iff
  complete _ := mem_available_of_resolves plain

/-- The menus are in order without repetitions. They list what is at hand and whatever stands in a
directory with the extension, while only regular files under valid names are found. What can be loaded
is listed, except for files found by way of an empty directory name. -/
theorem menus_list_names (l : Library) (d : Disk) : l.Menu d .theme ∧ l.Menu d .grammar :=
  ⟨menu ResourceKind.plain_theme l d, menu ResourceKind.plain_grammar l d⟩

/-- A directory with the extension is listed, but nothing is found under its name. -/
theorem menu_lists_directory :
    let l := new [⟨"d"⟩] .memory
    let d : Disk := ⟨[(["X.pstheme", "d"], .directory), (["d"], .directory)], []⟩
    "X" ∈ l.available d .theme ∧ ¬ l.Resolves d .theme "X" := by
  intro l d
  have missing : l.find d .theme "X" = .error (.notFound "theme" "X") := by decide +kernel
  exact ⟨by decide +kernel, fun h => h _ _ missing⟩

end Library

end CodeEditor
