import CodeEditor.Text.Blank
import CodeEditor.Text.Split
import Mathlib.Data.List.DropRight

/-! # Parts of a text

What trimming leaves of a text, and the parts that splitting gives, are told by how the text is put
together of them.
-/

namespace CodeEditor.Text

/-! ## Trimming -/

def AllBlank (text : List Char) : Prop := ∀ c ∈ text, isBlank c = true

/-- The text is the core with blanks around it, and the core has none at its ends. -/
structure IsTrimmed (text core : List Char) : Prop where
  around : ∃ front back, AllBlank front ∧ AllBlank back ∧ text = front ++ core ++ back
  first : ∀ c, core.head? = some c → isBlank c = false
  last : ∀ c, core.getLast? = some c → isBlank c = false

theorem trimEnd_eq (text : List Char) : trimEnd text = text.rdropWhile isBlank := rfl

theorem trimEnd_append {back : List Char} (blank : AllBlank back) (text : List Char) :
    trimEnd (text ++ back) = trimEnd text := by
  have hback : ∀ c ∈ back.reverse, isBlank c = true := fun c hc => blank c (List.mem_reverse.mp hc)
  rw [trimEnd, trimEnd, List.reverse_append, List.dropWhile_append_of_pos hback]

theorem trimEnd_eq_self {core : List Char}
    (last : ∀ c, core.getLast? = some c → isBlank c = false) : trimEnd core = core := by
  rw [trimEnd_eq, List.rdropWhile_eq_self_iff]
  intro hcore
  rw [last _ (List.getLast?_eq_some_getLast hcore)]
  exact Bool.false_ne_true

theorem IsTrimmed.trim_eq {text core : List Char} (h : IsTrimmed text core) : trim text = core := by
  obtain ⟨front, back, hfront, hback, rfl⟩ := h.around
  rw [trim, List.append_assoc, List.dropWhile_append_of_pos hfront]
  cases core with
  | nil =>
    rw [List.nil_append, List.dropWhile_eq_nil_iff.mpr hback]
    rfl
  | cons c cs =>
    have hc : isBlank c = false := h.first c rfl
    rw [List.cons_append, List.dropWhile_cons_of_neg (by simp [hc]), ← List.cons_append,
      trimEnd_append hback, trimEnd_eq_self h.last]

theorem isTrimmed_append {front core back : List Char} (hfront : AllBlank front)
    (hback : AllBlank back) (solid : ∀ c ∈ core, isBlank c = false) :
    IsTrimmed (front ++ core ++ back) core where
  around := ⟨front, back, hfront, hback, rfl⟩
  first c hc := solid c (List.mem_of_mem_head? hc)
  last c hc := solid c (List.mem_of_mem_getLast? hc)

theorem isTrimmed_trim (text : List Char) : IsTrimmed text (trim text) where
  around := by
    refine ⟨text.takeWhile isBlank, (text.dropWhile isBlank).rtakeWhile isBlank,
      fun _ => List.mem_takeWhile_imp, fun _ => List.mem_rtakeWhile_imp, ?_⟩
    rw [trim, trimEnd_eq, List.append_assoc, List.rdropWhile_append_rtakeWhile,
      List.takeWhile_append_dropWhile]
  first := by
    -- What is left after the blanks at the end is a front part, so it starts as before.
    intro c hc
    obtain ⟨back, hback⟩ := List.rdropWhile_prefix isBlank (text.dropWhile isBlank)
    have hhead : (text.dropWhile isBlank).head? = some c := by
      rw [← hback, List.head?_append, ← trimEnd_eq, ← trim, hc]
      rfl
    have hnot := List.head?_dropWhile_not isBlank text
    rw [hhead] at hnot
    exact hnot
  last := by
    intro c hc
    have hcore : trim text ≠ [] := by
      intro hnil
      rw [hnil] at hc
      cases hc
    rw [List.getLast?_eq_some_getLast hcore] at hc
    cases hc
    exact eq_false_of_ne_true (List.rdropWhile_last_not isBlank _ hcore)

theorem isTrimmed_iff (text core : List Char) : IsTrimmed text core ↔ trim text = core := by
  constructor
  · exact IsTrimmed.trim_eq
  · rintro rfl
    exact isTrimmed_trim text

theorem trim_trim (text : List Char) : trim (trim text) = trim text := by
  have h := isTrimmed_trim text
  exact IsTrimmed.trim_eq ⟨⟨[], [], nofun, nofun, by simp⟩, h.first, h.last⟩

@[simp] theorem trimmed_trimmed (s : String) : trimmed (trimmed s) = trimmed s := by
  unfold trimmed
  rw [String.toList_ofList, trim_trim]

theorem mem_trim_iff {c : Char} (h : isBlank c = false) (text : List Char) :
    c ∈ trim text ↔ c ∈ text := by
  obtain ⟨front, back, hfront, hback, htext⟩ := (isTrimmed_trim text).around
  have hblank : ∀ {part : List Char}, AllBlank part → c ∉ part := by
    intro part hpart hc
    rw [hpart c hc] at h
    cases h
  constructor
  · intro hc
    rw [htext]
    exact List.mem_append_left _ (List.mem_append_right _ hc)
  · intro hc
    rw [htext, List.mem_append, List.mem_append] at hc
    rcases hc with (hc | hc) | hc
    · exact absurd hc (hblank hfront)
    · exact hc
    · exact absurd hc (hblank hback)

theorem trim_eq_nil_iff {text : List Char} : trim text = [] ↔ text.all isBlank = true := by
  rw [List.all_eq_true]
  constructor
  · intro h
    obtain ⟨front, back, hfront, hback, htext⟩ := (isTrimmed_trim text).around
    rw [htext, h, List.append_nil]
    exact List.forall_mem_append.mpr ⟨hfront, hback⟩
  · intro h
    rw [trim, List.dropWhile_eq_nil_iff.mpr h]
    rfl

theorem trimmed_eq_empty_iff {name : String} : trimmed name = "" ↔ isAllBlank name = true := by
  rw [isAllBlank, ← trim_eq_nil_iff, ← String.toList_eq_nil_iff, trimmed, String.toList_ofList]

/-! ## Splitting -/

theorem split_eq_splitOn (separator : Char) (text : List Char) :
    split separator text = text.splitOn separator := by
  induction text with
  | nil => rfl
  | cons c cs ih =>
    rw [split, ih, List.splitOn_cons_eq_if_modifyHead]
    cases hparts : cs.splitOn separator with
    | nil => exact absurd hparts (List.splitOn_ne_nil separator cs)
    | cons part parts => rfl

theorem flatten_split (separator : Char) (text : List Char) :
    ((split separator text).intersperse [separator]).flatten = text := by
  rw [split_eq_splitOn]
  exact List.intercalate_splitOn separator

/-- Parts without the separator, with one between each two of them. -/
structure IsSplit (separator : Char) (text : List Char) (parts : List (List Char)) : Prop where
  joined : [separator].intercalate parts = text
  clean : ∀ part ∈ parts, separator ∉ part
  nonempty : parts ≠ []

theorem isSplit_iff (separator : Char) (text : List Char) (parts : List (List Char)) :
    IsSplit separator text parts ↔ split separator text = parts := by
  constructor
  · rintro ⟨rfl, clean, nonempty⟩
    rw [split_eq_splitOn]
    exact List.splitOn_intercalate separator clean nonempty
  · rintro rfl
    refine ⟨flatten_split separator text, not_mem_split separator text, ?_⟩
    rw [split_eq_splitOn]
    exact List.splitOn_ne_nil separator text

end CodeEditor.Text
