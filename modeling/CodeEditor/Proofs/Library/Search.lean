import CodeEditor.Proofs.Library.Menu

/-! # Where a name is looked for

Only files right in one of the directories are looked at, in the order of the directories and up to the
first regular file. What the name stands for is in that file, or else at hand.
-/

namespace CodeEditor

namespace Disk

variable {d : Disk} {p : Path}

theorem readText_of_isFile (h : d.isFile p = true) :
    ∃ bytes, d.readBytes p = .ok bytes ∧
      d.readText p = (Text.Utf8.decode? bytes).elim (.error .notText) .ok := by
  obtain ⟨l, bytes, executable, hlocate, hnode⟩ := isFile_iff.mp h
  have hfind := find_eq_ok_iff.mpr ⟨hlocate, hnode⟩
  have hbytes : d.readBytes p = .ok bytes := by
    unfold readBytes
    rw [hfind]
    rfl
  refine ⟨bytes, hbytes, ?_⟩
  unfold readText
  rw [hbytes]
  simp only [bind, Except.bind]
  cases Text.Utf8.decode? bytes <;> rfl

end Disk

namespace Library

variable {α : Type} {l : Library} {d d' : Disk} {kind : ResourceKind α} {name other : String}

/-! ## Names that are refused -/

/-- A name that leads nowhere, or somewhere else than into a directory. -/
def LeadsAstray (name : String) : Prop :=
  Text.isAllBlank name = true ∨ Text.trimmed name = "." ∨ Text.trimmed name = ".." ∨
    '/' ∈ name.toList ∨ '\\' ∈ name.toList

theorem isName_eq_false_iff : isName name = false ↔ LeadsAstray name := by
  have hmem : ∀ c, Text.isBlank c = false →
      (c ∈ (Text.trimmed name).toList ↔ c ∈ name.toList) := by
    intro c hc
    rw [Text.trimmed, String.toList_ofList, Text.mem_trim_iff hc]
  unfold isName LeadsAstray
  rw [← hmem '/' (by decide), ← hmem '\\' (by decide), ← Text.trimmed_eq_empty_iff]
  simp only [Bool.and_eq_false_iff, bne_eq_false_iff_eq, Bool.not_eq_false', List.contains_iff_mem,
    or_assoc]

theorem isName_eq_true_iff : isName name = true ↔ ¬ LeadsAstray name := by
  rw [← isName_eq_false_iff, Bool.not_eq_false]

theorem isName_of_trimmed (same : Text.trimmed other = Text.trimmed name) :
    isName other = isName name := by
  rw [← isName_trimmed other, same, isName_trimmed]

/-! ## The places in turn -/

/-- The places that are looked at in turn: up to the first regular file. -/
def visited (d : Disk) : List Path → List Path
  | [] => []
  | p :: ps => if d.isFile p then [p] else p :: visited d ps

theorem isPrefix_visited (d : Disk) (ps : List Path) : visited d ps <+: ps := by
  induction ps with
  | nil => exact List.nil_prefix
  | cons p ps ih =>
    rw [visited]
    split
    · exact (List.prefix_cons_inj p).mpr List.nil_prefix
    · exact (List.prefix_cons_inj p).mpr ih

theorem mem_visited_of_find? {ps : List Path} {file : Path} (h : ps.find? d.isFile = some file) :
    file ∈ visited d ps := by
  induction ps with
  | nil => cases h
  | cons p ps ih =>
    rw [visited]
    cases hfile : d.isFile p with
    | true =>
      rw [List.find?_cons_of_pos hfile] at h
      cases h
      exact List.mem_singleton_self _
    | false =>
      rw [List.find?_cons_of_neg (by simp [hfile])] at h
      exact List.mem_cons_of_mem _ (ih h)

theorem visited_congr {ps : List Path} (same : ∀ p ∈ visited d ps, d'.isFile p = d.isFile p) :
    visited d' ps = visited d ps ∧ ps.find? d'.isFile = ps.find? d.isFile := by
  induction ps with
  | nil => exact ⟨rfl, rfl⟩
  | cons p ps ih =>
    rw [visited] at same
    cases hfile : d.isFile p with
    | true =>
      rw [hfile, if_pos rfl] at same
      have hfile' := (same p List.mem_cons_self).trans hfile
      rw [visited, visited, hfile, hfile', List.find?_cons_of_pos hfile, List.find?_cons_of_pos hfile']
      exact ⟨rfl, rfl⟩
    | false =>
      rw [hfile, if_neg Bool.false_ne_true] at same
      have hfile' := (same p List.mem_cons_self).trans hfile
      obtain ⟨hvisited, hfind⟩ := ih fun q hq => same q (List.mem_cons_of_mem _ hq)
      rw [visited, visited, hfile, hfile', List.find?_cons_of_neg (by simp [hfile']),
        List.find?_cons_of_neg (by simp [hfile]), hvisited, hfind]
      exact ⟨rfl, rfl⟩

/-- The places that are looked at for a name. -/
def looksAt (l : Library) (d : Disk) (kind : ResourceKind α) (name : String) : List Path :=
  if isName name then visited d (l.candidates kind name) else []

/-! ## What the answer rests on -/

theorem find_of_leadsAstray (h : LeadsAstray name) :
    l.find d kind name = .error (.notFound kind.label name) := by
  unfold find
  rw [isName_eq_false_iff.mpr h]
  rfl

theorem find_of_file (valid : isName name = true) {file : Path}
    (first : (l.candidates kind name).find? d.isFile = some file) :
    ∃ bytes, d.readBytes file = .ok bytes ∧
      l.find d kind name = (Text.Utf8.decode? bytes).elim (.error (.disk .notText)) fun text =>
        (kind.parse? text (Text.trimmed name)).elim (.error .malformed) .ok := by
  obtain ⟨bytes, hbytes, htext⟩ := Disk.readText_of_isFile (List.find?_some first)
  refine ⟨bytes, hbytes, ?_⟩
  unfold find
  rw [valid, first]
  simp only [Bool.not_true, Bool.false_eq_true, if_false, htext]
  cases Text.Utf8.decode? bytes with
  | none => rfl
  | some text =>
    simp only [Option.elim_some]
    cases kind.parse? text (Text.trimmed name) <;> rfl

theorem find_of_no_file (valid : isName name = true)
    (missing : (l.candidates kind name).find? d.isFile = none) :
    l.find d kind name = (kind.builtin.lookup (Text.trimmed name)).elim
      (.error (.notFound kind.label (Text.trimmed name))) .ok := by
  unfold find
  rw [valid, missing]
  simp only [Bool.not_true, Bool.false_eq_true, if_false]
  cases kind.builtin.lookup (Text.trimmed name) <;> rfl

theorem find_congr (same : ∀ p ∈ l.looksAt d kind name,
      d'.isFile p = d.isFile p ∧ d'.readText p = d.readText p) :
    l.looksAt d' kind name = l.looksAt d kind name ∧ l.find d' kind name = l.find d kind name := by
  unfold looksAt at same ⊢
  cases hvalid : isName name with
  | false =>
    have hastray := isName_eq_false_iff.mp hvalid
    rw [find_of_leadsAstray hastray, find_of_leadsAstray hastray]
    exact ⟨rfl, rfl⟩
  | true =>
    rw [hvalid, if_pos rfl] at same
    obtain ⟨hvisited, hfind⟩ := visited_congr fun p hp => (same p hp).1
    refine ⟨by simp only [hvisited], ?_⟩
    unfold find
    rw [hfind]
    cases hfile : (l.candidates kind name).find? d.isFile with
    | none => rfl
    | some file =>
      have hread := (same file (mem_visited_of_find? hfile)).2
      simp only [hread]

theorem looksAt_of_trimmed (same : Text.trimmed other = Text.trimmed name) :
    l.looksAt d kind other = l.looksAt d kind name := by
  unfold looksAt candidates
  rw [isName_of_trimmed same, same]

theorem find_of_trimmed (valid : isName name = true) (same : Text.trimmed other = Text.trimmed name) :
    l.find d kind other = l.find d kind name := by
  unfold find candidates
  rw [isName_of_trimmed same, valid, same]
  rfl

/-! ## Files right in a directory -/

/-- A name that stands for a file in a directory: neither the directory itself nor the one above, and no
way through others. -/
structure IsFileName (kind : ResourceKind α) (file : String) : Prop where
  step : Path.IsStep file
  here : file ≠ "."
  up : file ≠ ".."
  extension : ∃ stem, Path.splitExtension file = (stem, some kind.fileExtension)

/-- The place to which a path leads from the working directory when it is empty. -/
def placeOf (d : Disk) (directory : Path) : Except Disk.Cause Location :=
  if directory.text = "" then .ok d.workingDirectory else d.locate directory

/-- The path is that of a file right in the directory, and leads there. -/
structure IsFileIn (kind : ResourceKind α) (directory : Path) (file : String) (p : Path) : Prop where
  joined : p = directory.join ⟨file⟩
  name : IsFileName kind file
  names : p.names = directory.between ++ [file]
  absolute : p.isAbsolute = directory.isAbsolute
  leads : ∀ (d : Disk) place, d.locate p = .ok place →
    ∃ parent, placeOf d directory = .ok parent ∧ d.node? parent = some .directory ∧
      place = file :: parent

theorem isFileIn_join (directory : Path) {file : String} (h : IsFileName kind file) :
    IsFileIn kind directory file (directory.join ⟨file⟩) := by
  have hplace : ∀ place : Location, Disk.step place file = file :: place := by
    intro place
    unfold Disk.step
    rw [if_neg h.here, if_neg h.up]
  by_cases path : directory.text = ""
  · have hjoin : directory.join ⟨file⟩ = ⟨file⟩ := by
      unfold Path.join
      rw [if_pos (by simp [path])]
    have hrelative : Path.isAbsolute ⟨file⟩ = false := by
      unfold Path.isAbsolute
      rw [beq_eq_false_iff_ne]
      exact fun hhead => h.step.slash (List.mem_of_head? hhead)
    have hnames : Path.names ⟨file⟩ = [file] := by
      have hlast : file.toList.getLast? ≠ some '/' := Path.getLast?_ne_slash h.step []
      unfold Path.names Text.splitString
      rw [if_neg (by simpa using hlast), Text.split_of_not_mem h.step.slash]
      simp [h.step.text]
    refine ⟨rfl, h, ?_, ?_, ?_⟩
    · rw [hjoin, hnames, Path.between, path]
      rfl
    · rw [hjoin, hrelative, Path.isAbsolute, path]
      rfl
    · intro d place found
      rw [hjoin] at found
      unfold Disk.locate at found
      rw [hrelative, hnames, if_neg h.step.text] at found
      split at found
      · cases found
      · obtain ⟨hdirectory, hstep⟩ := Disk.follow_singleton found
        exact ⟨d.workingDirectory, if_pos path, hdirectory, hstep.trans (hplace _)⟩
  · refine ⟨rfl, h, Path.names_join path h.step, Path.isAbsolute_join path h.step, ?_⟩
    intro d place found
    obtain ⟨parent, hparent, hdirectory, hstep⟩ := Disk.locate_join path h.step found
    exact ⟨parent, (if_neg path).trans hparent, hdirectory, hstep.trans (hplace _)⟩

theorem isFileName_fileName (plain : kind.Plain) (valid : isName name = true) :
    IsFileName kind (fileName kind (Text.trimmed name)) := by
  obtain ⟨step, here, up⟩ := isStep_fileName plain valid
  refine ⟨step, here, up, Text.trimmed name, ?_⟩
  exact Path.splitExtension_eq_iff.mpr ⟨trimmed_ne_of_isName valid, plain.dot, rfl⟩

/-! ## The search -/

/-- How a name is looked for, and what is answered. -/
structure Search (l : Library) (d : Disk) (kind : ResourceKind α) (name : String) : Prop where
  /-- Every place is a file right in one of the directories. -/
  confined : ∀ p ∈ l.looksAt d kind name,
    ∃ directory ∈ l.directories, ∃ file, IsFileIn kind directory file p
  inOrder : l.looksAt d kind name <+:
    l.directories.map (·.join ⟨fileName kind (Text.trimmed name)⟩)
  /-- The answer depends on the disk only through these places. -/
  only : ∀ d' : Disk, (∀ p ∈ l.looksAt d kind name,
      d'.isFile p = d.isFile p ∧ d'.readText p = d.readText p) →
    l.looksAt d' kind name = l.looksAt d kind name ∧ l.find d' kind name = l.find d kind name
  trimmed : ∀ other, Text.trimmed other = Text.trimmed name →
    l.looksAt d kind other = l.looksAt d kind name ∧
      (¬ LeadsAstray name → l.find d kind other = l.find d kind name) ∧
      (LeadsAstray name → l.find d kind other = .error (.notFound kind.label other))
  /-- What the first directory holds under the name is read. -/
  found : ¬ LeadsAstray name → ∀ before directory after,
    l.directories = before ++ directory :: after →
    (∀ passed ∈ before, d.isFile (passed.join ⟨fileName kind (Text.trimmed name)⟩) = false) →
    d.isFile (directory.join ⟨fileName kind (Text.trimmed name)⟩) = true →
    ∃ bytes, d.readBytes (directory.join ⟨fileName kind (Text.trimmed name)⟩) = .ok bytes ∧
      l.find d kind name = (Text.Utf8.decode? bytes).elim (.error (.disk .notText)) fun text =>
        (kind.parse? text (Text.trimmed name)).elim (.error .malformed) .ok
  atHand : ¬ LeadsAstray name →
    (∀ directory ∈ l.directories,
      d.isFile (directory.join ⟨fileName kind (Text.trimmed name)⟩) = false) →
    l.find d kind name = (kind.builtin.lookup (Text.trimmed name)).elim
      (.error (.notFound kind.label (Text.trimmed name))) .ok
  refused : LeadsAstray name →
    l.looksAt d kind name = [] ∧ l.find d kind name = .error (.notFound kind.label name)

theorem search (plain : kind.Plain) (l : Library) (d : Disk) (name : String) :
    l.Search d kind name where
  confined := by
    intro p hp
    unfold looksAt at hp
    split at hp
    · next valid =>
      obtain ⟨directory, hdirectory, rfl⟩ := mem_candidates.mp ((isPrefix_visited d _).mem hp)
      exact ⟨directory, hdirectory, _, isFileIn_join directory (isFileName_fileName plain valid)⟩
    · cases hp
  inOrder := by
    unfold looksAt
    split
    · exact isPrefix_visited d _
    · exact List.nil_prefix
  only _ same := find_congr same
  trimmed other same := by
    refine ⟨looksAt_of_trimmed same, ?_, ?_⟩
    · intro straight
      exact find_of_trimmed (isName_eq_true_iff.mpr straight) same
    · intro astray
      refine find_of_leadsAstray (isName_eq_false_iff.mp ?_)
      rw [isName_of_trimmed same, isName_eq_false_iff.mpr astray]
  found := by
    intro straight before directory after directories passed found
    refine find_of_file (isName_eq_true_iff.mpr straight) ?_
    rw [candidates, directories, List.map_append, List.map_cons, List.find?_eq_some_iff_append]
    refine ⟨found, _, _, rfl, ?_⟩
    intro p hp
    obtain ⟨other, hother, rfl⟩ := List.mem_map.mp hp
    rw [Bool.not_eq_true']
    exact passed other hother
  atHand := by
    intro straight missing
    refine find_of_no_file (isName_eq_true_iff.mpr straight) (List.find?_eq_none.mpr ?_)
    intro p hp
    obtain ⟨directory, hdirectory, rfl⟩ := mem_candidates.mp hp
    rw [missing directory hdirectory]
    exact Bool.false_ne_true
  refused := by
    intro astray
    refine ⟨?_, find_of_leadsAstray astray⟩
    unfold looksAt
    rw [isName_eq_false_iff.mpr astray]
    rfl

/-- Whatever the name, only files in the directories are looked at, the first of them counts, and blanks
around the name do not. -/
theorem names_stay_in_directories (l : Library) (d : Disk) (name : String) :
    l.Search d .theme name ∧ l.Search d .grammar name :=
  ⟨search ResourceKind.plain_theme l d name, search ResourceKind.plain_grammar l d name⟩

end Library

end CodeEditor
