import CodeEditor.Disk
import Mathlib.Data.List.Basic
import Mathlib.Data.List.TakeWhile

/-! # Where paths lead

A path and a name joined to it lead to a place in the directory to which the path leads, and what is
put at one place is found there and leaves the other places as they were.
-/

namespace CodeEditor

namespace Text

theorem split_append (separator : Char) (before after : List Char) :
    split separator (before ++ separator :: after) =
      split separator before ++ split separator after := by
  induction before with
  | nil =>
    simp [split]
  | cons c cs ih =>
    rw [List.cons_append]
    simp only [split, ih]
    split
    · rfl
    · have hsplit : split separator cs ≠ [] := by
        cases cs with
        | nil => exact List.cons_ne_nil _ _
        | cons c' cs' =>
          rw [split]
          split
          · exact List.cons_ne_nil _ _
          · split <;> exact List.cons_ne_nil _ _
      cases hparts : split separator cs with
      | nil => exact absurd hparts hsplit
      | cons part parts => rfl

theorem split_of_not_mem {separator : Char} {text : List Char} (h : separator ∉ text) :
    split separator text = [text] := by
  induction text with
  | nil => rfl
  | cons c cs ih =>
    rw [List.mem_cons, not_or] at h
    rw [split, if_neg (by simpa using Ne.symm h.1), ih h.2]

end Text

namespace Path

/-- The names between the slashes of a path. -/
def between (p : Path) : List String := (Text.splitString '/' p.text).filter (· ≠ "")

/-- A name that can stand between two slashes. -/
structure IsStep (name : String) : Prop where
  text : name ≠ ""
  slash : '/' ∉ name.toList

variable {p : Path} {name : String}

theorem getLast?_ne_slash (h : IsStep name) (before : List Char) :
    (before ++ name.toList).getLast? ≠ some '/' := by
  have hname : name.toList ≠ [] := by
    rw [ne_eq, String.toList_eq_nil_iff]
    exact h.text
  rw [List.getLast?_append_of_ne_nil _ hname]
  intro hlast
  exact h.slash (List.mem_of_getLast? hlast)

theorem exists_before_join (path : p.text ≠ "") (h : IsStep name) :
    ∃ before, (p.join ⟨name⟩).text.toList = before ++ '/' :: name.toList ∧
      p.between = ((Text.split '/' before).map String.ofList).filter (· ≠ "") ∧
      (p.text.toList = before ∨ p.text.toList = before ++ ['/']) := by
  have hrelative : Path.isAbsolute ⟨name⟩ = false := by
    unfold Path.isAbsolute
    rw [beq_eq_false_iff_ne]
    intro hhead
    exact h.slash (List.mem_of_head? hhead)
  unfold join
  rw [if_neg (by simpa [hrelative] using path)]
  by_cases hlast : p.text.toList.getLast? = some '/'
  · obtain ⟨before, hbefore⟩ := List.getLast?_eq_some_iff.mp hlast
    rw [if_pos (by simpa using hlast)]
    refine ⟨before, by simp [hbefore], ?_, .inr hbefore⟩
    unfold between Text.splitString
    rw [hbefore, Text.split_append]
    simp [Text.split]
  · rw [if_neg (by simpa using hlast)]
    exact ⟨p.text.toList, by simp, rfl, .inl rfl⟩

theorem names_join (path : p.text ≠ "") (h : IsStep name) :
    (p.join ⟨name⟩).names = p.between ++ [name] := by
  obtain ⟨before, htext, hbetween, -⟩ := exists_before_join path h
  have hlast : (p.join ⟨name⟩).text.toList.getLast? ≠ some '/' := by
    rw [htext, List.append_cons]
    exact getLast?_ne_slash h _
  unfold names Text.splitString
  rw [if_neg (by simpa using hlast), htext, Text.split_append, Text.split_of_not_mem h.slash, hbetween]
  simp [h.text]

theorem names_eq (p : Path) : p.names = p.between ∨ p.names = p.between ++ ["."] := by
  unfold names
  split
  · exact .inr rfl
  · exact .inl rfl

theorem isAbsolute_join (path : p.text ≠ "") (h : IsStep name) :
    (p.join ⟨name⟩).isAbsolute = p.isAbsolute := by
  obtain ⟨before, htext, -, hbefore⟩ := exists_before_join path h
  have hpath : p.text.toList ≠ [] := by
    rw [ne_eq, String.toList_eq_nil_iff]
    exact path
  unfold isAbsolute
  rw [htext]
  rcases hbefore with hbefore | hbefore
  · rw [← hbefore, List.head?_append, List.head?_eq_some_head hpath]
    rfl
  · rw [hbefore]
    cases before <;> rfl

/-! ## Extensions -/

theorem splitExtension_eq_iff {stem extension : String} :
    splitExtension name = (stem, some extension) ↔
      stem ≠ "" ∧ '.' ∉ extension.toList ∧ name = stem ++ "." ++ extension := by
  have hback : name.toList.reverse = name.toList.reverse.takeWhile (· != '.') ++
      name.toList.reverse.dropWhile (· != '.') := List.takeWhile_append_dropWhile.symm
  constructor
  · intro h
    unfold splitExtension at h
    simp only at h
    split at h
    · next c rest hrest =>
      cases h
      rw [hrest] at hback
      refine ⟨by simp, ?_, ?_⟩
      · rw [String.toList_ofList, List.mem_reverse]
        intro hmem
        simpa using List.mem_takeWhile_imp hmem
      · apply String.toList_injective
        conv_lhs => rw [← List.reverse_reverse name.toList, hback]
        simp
    · cases h
  · rintro ⟨hstem, hextension, rfl⟩
    have hlist : (stem ++ "." ++ extension).toList.reverse =
        extension.toList.reverse ++ '.' :: stem.toList.reverse := by simp
    have hpass : ∀ c ∈ extension.toList.reverse, (c != '.') = true := by
      intro c hc
      rw [bne_iff_ne]
      rintro rfl
      exact hextension (List.mem_reverse.mp hc)
    have hne : stem.toList.reverse ≠ [] := by simpa using hstem
    unfold splitExtension
    rw [hlist]
    simp only [List.takeWhile_append_of_pos hpass, List.dropWhile_append_of_pos hpass]
    obtain ⟨c, rest, hcases⟩ := List.exists_cons_of_ne_nil hne
    have hword : String.ofList (c :: rest).reverse = stem := by
      rw [← hcases, List.reverse_reverse, String.ofList_toList]
    simp [← hword]

end Path

namespace Disk

variable {d : Disk} {l : Location}

/-! ## Following names -/

theorem follow_append (d : Disk) (l : Location) (names more : List String) :
    d.follow l (names ++ more) = (d.follow l names).bind fun l => d.follow l more := by
  induction names generalizing l with
  | nil => rfl
  | cons name names ih =>
    rw [List.cons_append]
    simp only [follow]
    split
    · rfl
    · rfl
    · split
      · rfl
      · exact ih _

theorem follow_singleton {name : String} {l' : Location} (h : d.follow l [name] = .ok l') :
    d.node? l = some .directory ∧ l' = step l name := by
  simp only [follow] at h
  split at h
  · cases h
  · cases h
  · next directory =>
    split at h
    · cases h
    · cases h
      exact ⟨directory, rfl⟩

theorem follow_dot {names : List String} {l' : Location} (h : d.follow l names = .ok l')
    (directory : d.node? l' = some .directory) : d.follow l (names ++ ["."]) = .ok l' := by
  rw [follow_append, h]
  show d.follow l' ["."] = .ok l'
  simp only [follow, directory]
  rw [if_neg (by decide)]
  rfl

theorem locate_join {p : Path} {name : String} (path : p.text ≠ "") (h : Path.IsStep name)
    (found : d.locate (p.join ⟨name⟩) = .ok l) :
    ∃ directory, d.locate p = .ok directory ∧ d.node? directory = some .directory ∧
      l = step directory name := by
  obtain ⟨before, htext, -, hbefore⟩ := Path.exists_before_join path h
  unfold locate at found ⊢
  rw [Path.names_join path h, Path.isAbsolute_join path h] at found
  split at found
  · cases found
  · split at found
    · cases found
    · next nul =>
      have hnul : ¬ p.text.toList.contains (Char.ofNat 0) = true := by
        simp only [List.contains_iff_mem, htext] at nul ⊢
        intro hmem
        rcases hbefore with hbefore | hbefore
        · rw [hbefore] at hmem
          exact nul (List.mem_append_left _ hmem)
        · rw [hbefore, List.mem_append, List.mem_singleton] at hmem
          rcases hmem with hmem | hmem
          · exact nul (List.mem_append_left _ hmem)
          · exact absurd hmem (by decide)
      rw [if_neg path, if_neg hnul]
      rw [follow_append] at found
      cases hbetween : d.follow (if p.isAbsolute then [] else d.workingDirectory) p.between with
      | error cause =>
        rw [hbetween] at found
        cases found
      | ok directory =>
        rw [hbetween] at found
        obtain ⟨hdirectory, hstep⟩ := follow_singleton found
        refine ⟨directory, ?_, hdirectory, hstep⟩
        rcases p.names_eq with hnames | hnames
        · rw [hnames, hbetween]
        · rw [hnames]
          exact follow_dot hbetween hdirectory

/-! ## What stands at a place -/

theorem find_eq_ok_iff {p : Path} {n : Node} :
    d.find p = .ok (l, n) ↔ d.locate p = .ok l ∧ d.node? l = some n := by
  unfold find
  cases d.locate p with
  | error cause => exact ⟨nofun, nofun⟩
  | ok l' =>
    simp only [bind, Except.bind]
    cases hnode : d.node? l' with
    | none =>
      refine ⟨nofun, ?_⟩
      rintro ⟨⟨⟩, h⟩
      rw [hnode] at h
      cases h
    | some n' =>
      constructor
      · rintro ⟨⟩
        exact ⟨rfl, hnode⟩
      · rintro ⟨⟨⟩, h⟩
        rw [hnode] at h
        cases h
        rfl

theorem isFile_iff {p : Path} :
    d.isFile p = true ↔ ∃ l bytes executable,
      d.locate p = .ok l ∧ d.node? l = some (.file bytes executable) := by
  unfold isFile
  constructor
  · intro h
    split at h
    · next l bytes executable found => exact ⟨l, bytes, executable, find_eq_ok_iff.mp found⟩
    · cases h
  · rintro ⟨l, bytes, executable, h⟩
    rw [find_eq_ok_iff.mpr h]

theorem list_of_directory {p : Path} (place : d.locate p = .ok l)
    (directory : d.node? l = some .directory) : d.list p = .ok (d.namesIn l) := by
  unfold list
  rw [find_eq_ok_iff.mpr ⟨place, directory⟩]
  rfl

theorem mem_namesIn {name : String} {n : Node} (h : d.node? (name :: l) = some n) :
    name ∈ d.namesIn l := by
  unfold node? at h
  rw [if_neg (by simp)] at h
  unfold namesIn
  rw [List.mem_filterMap]
  refine ⟨(name :: l, n), ?_, if_pos rfl⟩
  obtain ⟨before, after, hentries, -⟩ := List.lookup_eq_some_iff.mp h
  rw [hentries]
  exact List.mem_append_right _ List.mem_cons_self

theorem exists_list_of_isFile_join {p : Path} {name : String} (path : p.text ≠ "")
    (h : Path.IsStep name) (here : name ≠ ".") (up : name ≠ "..")
    (found : d.isFile (p.join ⟨name⟩) = true) : ∃ names, d.list p = .ok names ∧ name ∈ names := by
  obtain ⟨l, bytes, executable, hlocate, hfile⟩ := isFile_iff.mp found
  obtain ⟨directory, hdirectory, hnode, rfl⟩ := locate_join path h hlocate
  have hstep : step directory name = name :: directory := by
    unfold step
    rw [if_neg here, if_neg up]
  rw [hstep] at hfile
  exact ⟨_, list_of_directory hdirectory hnode, mem_namesIn hfile⟩

/-! ## Writing -/

theorem lookup_filter_ne {l l' : Location} (other : l' ≠ l) (entries : List (Location × Node)) :
    (entries.filter (·.1 != l)).lookup l' = entries.lookup l' := by
  induction entries with
  | nil => rfl
  | cons entry rest ih =>
    obtain ⟨place, n⟩ := entry
    by_cases hplace : place = l
    · subst hplace
      rw [List.filter_cons_of_neg (by simp), ih, List.lookup_cons, beq_eq_false_iff_ne.mpr other]
    · rw [List.filter_cons_of_pos (by simpa using hplace), List.lookup_cons, List.lookup_cons, ih]

theorem node?_place (d : Disk) {l l' : Location} (n : Node) (top : l' ≠ []) :
    (d.place l n).node? l' = if l' = l then some n else d.node? l' := by
  have hempty : ¬ l'.isEmpty = true := by simpa using top
  unfold node? place
  rw [if_neg hempty, if_neg hempty, List.lookup_cons]
  by_cases hplace : l' = l
  · rw [hplace, beq_self_eq_true, if_pos rfl]
  · rw [beq_eq_false_iff_ne.mpr hplace, lookup_filter_ne hplace, if_neg hplace]

theorem node?_clear (d : Disk) {l l' : Location} (other : l' ≠ l) :
    (d.clear l).node? l' = d.node? l' := by
  unfold node? clear
  rw [lookup_filter_ne other]

theorem node?_top (d : Disk) : d.node? [] = some .directory := rfl

/-- The directories are the same on both disks, so paths lead to the same places. -/
structure SameDirectories (d d' : Disk) : Prop where
  workingDirectory : d'.workingDirectory = d.workingDirectory
  directory : ∀ l, d.node? l = some .directory → d'.node? l = some .directory

variable {d' : Disk}

theorem SameDirectories.follow (same : d.SameDirectories d') {names : List String} {l' : Location}
    (h : d.follow l names = .ok l') : d'.follow l names = .ok l' := by
  induction names generalizing l with
  | nil => exact h
  | cons name names ih =>
    unfold Disk.follow at h ⊢
    split at h
    · cases h
    · cases h
    · next directory =>
      rw [same.directory l directory]
      simp only
      split at h
      · cases h
      · next short =>
        rw [if_neg short]
        exact ih h

theorem SameDirectories.locate (same : d.SameDirectories d') {p : Path} (h : d.locate p = .ok l) :
    d'.locate p = .ok l := by
  unfold Disk.locate at h ⊢
  split at h
  · cases h
  · next text =>
    rw [if_neg text]
    split at h
    · cases h
    · next nul =>
      rw [if_neg nul, same.workingDirectory]
      exact same.follow h

theorem sameDirectories_place (file : d.node? l ≠ some .directory) (bytes : List UInt8)
    (executable : Bool) : d.SameDirectories (d.place l (.file bytes executable)) := by
  refine ⟨rfl, fun l' directory => ?_⟩
  have hother : l' ≠ l := by
    rintro rfl
    exact file directory
  by_cases htop : l' = []
  · rw [htop]
    exact node?_top _
  · rw [node?_place d _ htop, if_neg hother]
    exact directory

theorem sameDirectories_clear (file : d.node? l ≠ some .directory) :
    d.SameDirectories (d.clear l) := by
  refine ⟨rfl, fun l' directory => ?_⟩
  have hother : l' ≠ l := by
    rintro rfl
    exact file directory
  rw [node?_clear d hother]
  exact directory

theorem node?_place_self (file : d.node? l ≠ some .directory) (n : Node) :
    (d.place l n).node? l = some n := by
  have htop : l ≠ [] := by
    rintro rfl
    exact file (node?_top d)
  rw [node?_place d n htop, if_pos rfl]

theorem directory_of_clear {l' : Location} (h : (d.clear l).node? l' = some .directory) :
    d.node? l' = some .directory := by
  by_cases hplace : l' = l
  · by_cases htop : l' = []
    · rw [htop]
      exact node?_top d
    · have hempty : ¬ l'.isEmpty = true := by simpa using htop
      have hmissing : (d.entries.filter (·.1 != l)).lookup l' = none := by
        rw [List.lookup_eq_none_iff, hplace]
        intro entry hentry
        have hother := bne_iff_ne.mp (List.mem_filter.mp hentry).2
        exact bne_iff_ne.mpr hother.symm
      unfold node? clear at h
      rw [if_neg hempty, hmissing] at h
      cases h
  · rw [node?_clear d hplace] at h
    exact h

theorem exists_of_bind {α β : Type} {x : Except Cause α} {f : α → Except Cause β} {result : β}
    (h : x >>= f = .ok result) : ∃ value, x = .ok value ∧ f value = .ok result := by
  cases x with
  | error cause => cases h
  | ok value => exact ⟨value, rfl, h⟩

theorem placeForNew_eq_ok {p : Path} {l' : Location} (h : d.placeForNew p l = .ok l') : l' = l := by
  unfold placeForNew at h
  split at h
  · cases h
  split at h
  · cases h
    rfl
  · cases h
  · cases h

theorem write_eq_ok {p : Path} {bytes : List UInt8} (h : d.write p bytes = .ok d') :
    ∃ l executable, d.locate p = .ok l ∧ d.node? l ≠ some .directory ∧
      d' = d.place l (.file bytes executable) := by
  obtain ⟨l, hlocate, h⟩ := exists_of_bind h
  split at h
  · cases h
  · next hnode =>
    cases h
    exact ⟨l, _, hlocate, by rw [hnode]; nofun, rfl⟩
  · next hnode =>
    obtain ⟨l', hplace, h⟩ := exists_of_bind h
    cases h
    rw [placeForNew_eq_ok hplace]
    exact ⟨l, false, hlocate, by rw [hnode]; nofun, rfl⟩

theorem rename_eq_ok {source target : Path} (h : d.rename source target = .ok d') :
    ∃ l l' bytes executable, d.find source = .ok (l, .file bytes executable) ∧
      d.locate target = .ok l' ∧ d.node? l' ≠ some .directory ∧
      d' = (d.clear l).place l' (.file bytes executable) := by
  obtain ⟨⟨l, n⟩, hfind, h⟩ := exists_of_bind h
  split at h
  · cases h
  · next bytes executable hn =>
    cases hn
    obtain ⟨l', hlocate, h⟩ := exists_of_bind h
    refine ⟨l, l', bytes, executable, hfind, hlocate, ?_⟩
    split at h
    · cases h
    · next hnode =>
      cases h
      exact ⟨by rw [hnode]; nofun, rfl⟩
    · next hnode =>
      obtain ⟨l'', hplace, h⟩ := exists_of_bind h
      cases h
      rw [placeForNew_eq_ok hplace]
      exact ⟨by rw [hnode]; nofun, rfl⟩

theorem readBytes_of_rename {source target : Path} {bytes : List UInt8} {d'' : Disk}
    (written : d.write source bytes = .ok d') (renamed : d'.rename source target = .ok d'') :
    d''.readBytes target = .ok bytes := by
  obtain ⟨l, executable, hlocate, hfile, rfl⟩ := write_eq_ok written
  obtain ⟨found, l', bytes', executable', hfind, hlocate', hfile', rfl⟩ := rename_eq_ok renamed
  obtain ⟨hfound, hnode⟩ := find_eq_ok_iff.mp hfind
  have hplaced := sameDirectories_place hfile bytes executable
  have hsource : found = l := by
    rw [hplaced.locate hlocate] at hfound
    cases hfound
    rfl
  rw [hsource, node?_place_self hfile] at hnode
  cases hnode
  have hcleared : (d.place l (.file bytes executable)).SameDirectories
      ((d.place l (.file bytes executable)).clear found) := by
    refine sameDirectories_clear ?_
    rw [hsource, node?_place_self hfile]
    nofun
  have hfree : ((d.place l (.file bytes executable)).clear found).node? l' ≠ some .directory :=
    fun directory => hfile' (directory_of_clear directory)
  have hmoved := sameDirectories_place hfree bytes executable
  have hread := find_eq_ok_iff.mpr
    ⟨hmoved.locate (hcleared.locate hlocate'), node?_place_self hfree (.file bytes executable)⟩
  unfold readBytes
  rw [hread]
  rfl

end Disk

end CodeEditor
