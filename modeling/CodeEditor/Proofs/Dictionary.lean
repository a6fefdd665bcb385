import CodeEditor.Dictionary
import Mathlib.Data.List.Pairwise
import Mathlib.Data.String.Basic

/-! # Dictionaries in order

However a dictionary has come about, its names ascend, so each of them occurs once and an entry is
found exactly when it is there.
-/

namespace CodeEditor.Dictionary

variable {α β : Type}

def names (d : Dictionary α) : List String := d.entries.map (·.1)

/-- The names ascend. -/
def Ascending (d : Dictionary α) : Prop := d.names.Pairwise (· < ·)

theorem mem_insertInto_names {name other : String} {value : α} {entries : List (String × α)} :
    other ∈ (insertInto name value entries).map (·.1) ↔
      other = name ∨ other ∈ entries.map (·.1) := by
  induction entries with
  | nil => simp [insertInto]
  | cons entry rest ih =>
    obtain ⟨n, v⟩ := entry
    unfold insertInto
    split
    · next same => simp [same]
    · split
      · simp
      · simp only [List.map_cons, List.mem_cons, ih]
        tauto

@[simp] theorem mem_names_insert {d : Dictionary α} {name other : String} {value : α} :
    other ∈ (d.insert name value).names ↔ other = name ∨ other ∈ d.names :=
  mem_insertInto_names

theorem ascending_empty : (empty : Dictionary α).Ascending := .nil

theorem Ascending.insert {d : Dictionary α} (h : d.Ascending) (name : String) (value : α) :
    (d.insert name value).Ascending := by
  obtain ⟨entries⟩ := d
  unfold Ascending names at h ⊢
  simp only [Dictionary.insert] at h ⊢
  induction entries with
  | nil => simp [insertInto]
  | cons entry rest ih =>
    obtain ⟨n, v⟩ := entry
    rw [List.map_cons, List.pairwise_cons] at h
    obtain ⟨first, later⟩ := h
    unfold insertInto
    split
    · next same =>
      rw [same, List.map_cons, List.pairwise_cons]
      exact ⟨first, later⟩
    · next other =>
      split
      · next less =>
        rw [List.map_cons, List.pairwise_cons]
        refine ⟨?_, List.pairwise_cons.mpr ⟨first, later⟩⟩
        intro m hm
        rcases List.mem_cons.mp hm with rfl | hm
        · exact less
        · exact less.trans (first m hm)
      · next notLess =>
        have greater : n < name := lt_of_le_of_ne (not_lt.mp notLess) (Ne.symm other)
        rw [List.map_cons, List.pairwise_cons]
        refine ⟨?_, ih later⟩
        intro m hm
        rcases mem_insertInto_names.mp hm with rfl | hm
        · exact greater
        · exact first m hm

theorem Ascending.erase {d : Dictionary α} (h : d.Ascending) (name : String) :
    (d.erase name).Ascending :=
  List.Pairwise.sublist (List.Sublist.map _ List.filter_sublist) h

theorem ascending_foldl {entries : List (String × α)} {d : Dictionary α} (h : d.Ascending) :
    (entries.foldl (fun d (name, value) => d.insert name value) d).Ascending := by
  induction entries generalizing d with
  | nil => exact h
  | cons entry rest ih => exact ih (h.insert entry.1 entry.2)

theorem ascending_ofList (entries : List (String × α)) : (ofList entries).Ascending :=
  ascending_foldl ascending_empty

theorem mem_names_foldl {entries : List (String × α)} {d : Dictionary α} {name : String} :
    name ∈ (entries.foldl (fun d (name, value) => d.insert name value) d).names ↔
      name ∈ d.names ∨ name ∈ entries.map (·.1) := by
  induction entries generalizing d with
  | nil => simp
  | cons entry rest ih =>
    rw [List.foldl_cons, ih, mem_names_insert, List.map_cons, List.mem_cons]
    tauto

@[simp] theorem mem_names_ofList {entries : List (String × α)} {name : String} :
    name ∈ (ofList entries).names ↔ name ∈ entries.map (·.1) := by
  unfold ofList
  rw [mem_names_foldl]
  simp [names, empty]

/-! ## Values made from names -/

theorem find?_foldl_map (f : String → α) {names : List String} {d : Dictionary α} {name : String} :
    ((names.map fun n => (n, f n)).foldl (fun d (name, value) => d.insert name value) d).find? name =
      if name ∈ names then some (f name) else d.find? name := by
  induction names generalizing d with
  | nil => simp
  | cons n names ih =>
    rw [List.map_cons, List.foldl_cons, ih, find?_insert]
    by_cases hlater : name ∈ names
    · simp [hlater]
    · by_cases hsame : n = name
      · simp [hsame]
      · simp [hlater, hsame, Ne.symm hsame]

theorem find?_ofList_map (f : String → α) (names : List String) (name : String) :
    (ofList (names.map fun n => (n, f n))).find? name =
      if name ∈ names then some (f name) else none := by
  unfold ofList
  rw [find?_foldl_map, find?_empty]

/-! ## Entries -/

theorem mem_of_mem_insertInto {name : String} {value : α} {entries : List (String × α)}
    {entry : String × α} (h : entry ∈ insertInto name value entries) :
    entry = (name, value) ∨ entry ∈ entries := by
  induction entries with
  | nil => exact .inl (List.mem_singleton.mp h)
  | cons first rest ih =>
    obtain ⟨n, v⟩ := first
    unfold insertInto at h
    split at h
    · rcases List.mem_cons.mp h with h | h
      · exact .inl h
      · exact .inr (List.mem_cons_of_mem _ h)
    split at h
    · exact List.mem_cons.mp h
    · rcases List.mem_cons.mp h with rfl | h
      · exact .inr List.mem_cons_self
      · exact (ih h).imp_right (List.mem_cons_of_mem _)

theorem mem_of_mem_foldl {entries : List (String × α)} {d : Dictionary α} {entry : String × α}
    (h : entry ∈ (entries.foldl (fun d (name, value) => d.insert name value) d).entries) :
    entry ∈ d.entries ∨ entry ∈ entries := by
  induction entries generalizing d with
  | nil => exact .inl h
  | cons first rest ih =>
    rcases ih h with h | h
    · rcases mem_of_mem_insertInto h with rfl | h
      · exact .inr List.mem_cons_self
      · exact .inl h
    · exact .inr (List.mem_cons_of_mem _ h)

theorem mem_of_mem_ofList {entries : List (String × α)} {entry : String × α}
    (h : entry ∈ (ofList entries).entries) : entry ∈ entries :=
  (mem_of_mem_foldl h).resolve_left List.not_mem_nil

theorem insertInto_of_last {name : String} {value : α} {entries : List (String × α)}
    (last : ∀ n ∈ entries.map (·.1), n < name) :
    insertInto name value entries = entries ++ [(name, value)] := by
  induction entries with
  | nil => rfl
  | cons first rest ih =>
    obtain ⟨n, v⟩ := first
    obtain ⟨hfirst, hrest⟩ := List.forall_mem_cons.mp last
    unfold insertInto
    rw [if_neg hfirst.ne', if_neg hfirst.asymm, ih hrest, List.cons_append]

theorem foldl_insert_of_ascending {entries before : List (String × α)}
    (h : Ascending ⟨before ++ entries⟩) :
    entries.foldl (fun (d : Dictionary α) (name, value) => d.insert name value) ⟨before⟩ =
      ⟨before ++ entries⟩ := by
  induction entries generalizing before with
  | nil => rw [List.append_nil]; rfl
  | cons entry rest ih =>
    have hlast : ∀ n ∈ before.map (·.1), n < entry.1 := by
      intro n hn
      unfold Ascending names at h
      rw [List.map_append, List.pairwise_append] at h
      exact h.2.2 n hn entry.1 List.mem_cons_self
    have hinsert : (⟨before⟩ : Dictionary α).insert entry.1 entry.2 = ⟨before ++ [entry]⟩ :=
      congrArg Dictionary.mk (insertInto_of_last hlast)
    rw [List.append_cons] at h ⊢
    rw [List.foldl_cons, ← ih h, ← hinsert]

theorem Ascending.ofList_entries {d : Dictionary α} (h : d.Ascending) : ofList d.entries = d :=
  foldl_insert_of_ascending h

end CodeEditor.Dictionary
