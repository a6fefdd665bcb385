import CodeEditor.Proofs.CommandLine.Highlighting
import CodeEditor.Proofs.Library.Search

/-! # The mark in a listing

One name at most is marked in a listing. It is the name that is tried first when the preferred one is
loaded, unless the settings keep a name with blanks around it: these are left away where the name is
tried, but not where it is marked.
-/

namespace CodeEditor

namespace Library

variable {α : Type} {l : Library} {d : Disk} {kind : ResourceKind α}

/-- The name that is tried first when the preferred one is loaded. -/
def firstTried (l : Library) (kind : ResourceKind α) : String :=
  (l.preferred? kind).getD kind.standard

/-- A preferred name is kept with blanks around it. -/
def Padded (l : Library) (kind : ResourceKind α) : Prop :=
  ∃ name, l.settings.text? kind.setting = some name ∧ Text.isAllBlank name = false ∧
    Text.trimmed name ≠ name

theorem loadPreferred_firstTried (l : Library) (d : Disk) (kind : ResourceKind α) :
    l.loadPreferred d kind = l.load d kind
      (if (l.find d kind (l.firstTried kind)).isOk then l.firstTried kind else kind.standard) := by
  unfold loadPreferred firstTried
  cases l.preferred? kind with
  | none =>
    rw [Option.getD_none, ite_self]
  | some name =>
    simp only [Option.getD_some]
    cases hfound : (l.find d kind name).isOk with
    | true =>
      obtain ⟨value, h⟩ := isOk_find_iff.mp hfound
      obtain ⟨l', d', hload, -⟩ := load_of_standsFor h
      simp only [hload, if_true]
    | false =>
      have hload : l.load d kind name = (l, d, none) := by
        rw [load_eq_of_isOk, hfound]
        rfl
      simp only [hload, Bool.false_eq_true, if_false]

theorem available_ne_nil (l : Library) (d : Disk) (atHand : kind.builtin ≠ []) :
    l.available d kind ≠ [] := by
  obtain ⟨p, hp⟩ := List.exists_mem_of_ne_nil _ atHand
  refine List.ne_nil_of_mem (a := p.1) ?_
  rw [available_eq, Dictionary.mem_names_ofList, List.map_map]
  simp only [Function.comp_def, List.map_id', List.mem_append]
  exact .inl (List.mem_map_of_mem hp)

theorem nodup_available (l : Library) (d : Disk) (kind : ResourceKind α) :
    (l.available d kind).Nodup :=
  (sorted_available l d kind).imp ne_of_lt

end Library

namespace CommandLine

variable {α : Type} {l : Library} {d : Disk} {kind : ResourceKind α}

/-! ## Rows -/

/-- A name in a line of its own, with a mark before it or without. -/
def row (isMarked : Bool) (name : String) : List Char :=
  (if isMarked then ['*', ' '] else [' ', ' ']) ++ name.toList ++ ['\n']

/-- The names in lines of their own, with a mark before one of them. -/
def rows (names : List String) (preferred : String) : List Char :=
  names.flatMap fun name => row (name == preferred) name

theorem row_inj {isMarked isMarked' : Bool} {name : String} :
    row isMarked name = row isMarked' name ↔ isMarked = isMarked' := by
  unfold row
  rw [List.append_left_inj, List.append_left_inj]
  cases isMarked <;> cases isMarked' <;> decide

theorem length_row (isMarked : Bool) (name : String) :
    (row isMarked name).length = name.toList.length + 3 := by
  unfold row
  rw [List.length_append, List.length_append]
  cases isMarked <;> simp only [Bool.false_eq_true, if_true, if_false, List.length_cons,
    List.length_nil] <;> omega

theorem rows_eq_iff {names : List String} {preferred other : String} :
    rows names preferred = rows names other ↔
      ∀ name ∈ names, (name = preferred ↔ name = other) := by
  have hsame : ∀ name : String,
      (name == preferred) = (name == other) ↔ (name = preferred ↔ name = other) := by
    intro name
    rw [Bool.eq_iff_iff, beq_iff_eq, beq_iff_eq]
  induction names with
  | nil => exact iff_of_true rfl nofun
  | cons name names ih =>
    have hcons : ∀ marked, rows (name :: names) marked = row (name == marked) name ++ rows names marked :=
      fun marked => List.flatMap_cons
    rw [hcons, hcons, List.forall_mem_cons, ← hsame, ← row_inj]
    constructor
    · intro h
      obtain ⟨hrow, hrows⟩ := List.append_inj h ((length_row _ _).trans (length_row _ _).symm)
      exact ⟨hrow, ih.mp hrows⟩
    · rintro ⟨hrow, hnames⟩
      rw [hrow, ih.mpr hnames]

theorem listing_eq_rows {names : List String} (filled : names ≠ []) (preferred : String) :
    listing names preferred ++ ['\n'] = rows names preferred := by
  have hline : ∀ name : String,
      ((if name = preferred then "* " else "  ") ++ name).toList ++ ['\n'] =
        row (name == preferred) name := by
    intro name
    unfold row
    rw [String.toList_append, beq_eq_decide]
    split <;> simp_all
  unfold listing rows
  induction names with
  | nil => exact absurd rfl filled
  | cons name names ih =>
    cases names with
    | nil =>
      simp only [List.map_cons, List.map_nil, List.intersperse_singleton, List.flatten_singleton,
        List.flatMap_singleton]
      exact hline name
    | cons next names =>
      have hnext := ih (List.cons_ne_nil _ _)
      simp only [List.map_cons, List.intersperse_cons_cons, List.flatten_cons, List.append_assoc]
        at hnext ⊢
      rw [List.flatMap_cons, ← hnext, ← hline name, List.append_assoc]

/-! ## The name that is marked -/

theorem marked_eq_iff : marked l kind = l.firstTried kind ↔ ¬ l.Padded kind := by
  unfold marked Library.firstTried Library.preferred? Library.Padded
  cases l.settings.text? kind.setting with
  | none => exact iff_of_true rfl (by rintro ⟨name, ⟨⟩, -⟩)
  | some name =>
    simp only [Option.map_some, Option.some.injEq, exists_eq_left', not_and, not_not]
    have hempty : Text.trimmed name = "" ↔ Text.isAllBlank name = true := Text.trimmed_eq_empty_iff
    cases hblank : Text.isAllBlank name with
    | true => simp [Option.filter_some, hempty, hblank]
    | false =>
      rw [hblank] at hempty
      simp [Option.filter_some, hempty, hblank, eq_comm]

/-- How the preferred name is marked in a listing. -/
structure Marking (l : Library) (d : Disk) (kind : ResourceKind α) : Prop where
  /-- The standard one is loaded only if the name tried first stands for nothing. -/
  tried : l.loadPreferred d kind = l.load d kind
    (if (l.find d kind (l.firstTried kind)).isOk then l.firstTried kind else kind.standard)
  printed : list d l kind = .printed d (rows (l.available d kind) (marked l kind))
  /-- The mark is for the name that is tried first, unless it is kept with blanks around it. -/
  agrees : marked l kind = l.firstTried kind ↔ ¬ l.Padded kind
  /-- Exactly the entries with the name tried first are marked, unless there is an entry that shows
  the difference. -/
  right : list d l kind = .printed d (rows (l.available d kind) (l.firstTried kind)) ↔
    (l.Padded kind → marked l kind ∉ l.available d kind ∧ l.firstTried kind ∉ l.available d kind)
  once : (l.available d kind).count (marked l kind) ≤ 1
  listed : ¬ l.Padded kind → l.firstTried kind ∈ l.available d kind →
    (l.available d kind).count (marked l kind) = 1

theorem marking (atHand : kind.builtin ≠ []) (l : Library) (d : Disk) : Marking l d kind := by
  have hprinted : list d l kind = .printed d (rows (l.available d kind) (marked l kind)) := by
    unfold list
    rw [listing_eq_rows (Library.available_ne_nil l d atHand)]
  have hnodup := Library.nodup_available l d kind
  refine ⟨Library.loadPreferred_firstTried l d kind, hprinted, marked_eq_iff, ?_,
    List.nodup_iff_count.mp hnodup _, ?_⟩
  · have hrows : list d l kind = .printed d (rows (l.available d kind) (l.firstTried kind)) ↔
        ∀ name ∈ l.available d kind, (name = marked l kind ↔ name = l.firstTried kind) := by
      rw [hprinted, ← rows_eq_iff]
      exact ⟨congrArg Outcome.output, congrArg (Outcome.printed d)⟩
    rw [hrows]
    constructor
    · intro h padded
      have hother : marked l kind ≠ l.firstTried kind := fun same => marked_eq_iff.mp same padded
      exact ⟨fun hmarked => hother ((h _ hmarked).mp rfl),
        fun htried => hother ((h _ htried).mpr rfl).symm⟩
    · intro h name hname
      by_cases padded : l.Padded kind
      · obtain ⟨hmarked, htried⟩ := h padded
        exact iff_of_false (ne_of_mem_of_not_mem hname hmarked) (ne_of_mem_of_not_mem hname htried)
      · rw [marked_eq_iff.mpr padded]
  · intro unpadded hlisted
    rw [← marked_eq_iff.mpr unpadded] at hlisted
    rw [hnodup.count, if_pos hlisted]

/-- In the listings of themes and of grammars one name at most is marked, the one that is tried first or
that one as it is kept with blanks around it. -/
theorem listings_mark_one_name [Manual] (l : Library) (d : Disk) :
    Marking l d .theme ∧ Marking l d .grammar ∧
      ∀ e directories,
        execute e d directories .themes = list d (opened e d directories) .theme ∧
        execute e d directories .grammars = list d (opened e d directories) .grammar :=
  ⟨marking (by decide) l d, marking (by decide) l d, fun _ _ => ⟨rfl, rfl⟩⟩

/-- Nothing is marked when a name at hand is kept with a blank at its end, though that name is the one
that is loaded. -/
theorem padded_preference_not_marked :
    ¬ ∀ (e : Environment) (d : Disk) (directories : List Path),
      execute e d directories .themes = .printed d
        (rows ((opened e d directories).available d .theme)
          ((opened e d directories).firstTried .theme)) := by
  intro h
  have hright := h ⟨[("PRIMESTUDIO_SETTINGS_PATH", "s")], ⟨"/"⟩⟩
    ⟨[(["s"], .file (Text.Utf8.encode
      "\x7b\"preferredTheme\": \"Prime Light \"\x7d".toList) false)], []⟩ []
  have houtput := congrArg Outcome.output hright
  revert houtput
  decide +kernel

end CommandLine

end CodeEditor
