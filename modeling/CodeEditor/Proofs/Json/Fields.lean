import CodeEditor.Json.Fields
import Mathlib.Data.List.Forall2

/-! # What a document holds in a field

When the fields of a document are read, each is what stands under its name in a record, or in its place
in a list.
-/

namespace CodeEditor.Json

/-! ## All or none of a list -/

variable {α β : Type} {f : α → Option β}

theorem forall₂_of_mapM {items : List α} {values : List β} (h : items.mapM f = some values) :
    List.Forall₂ (fun item value => f item = some value) items values := by
  induction items generalizing values with
  | nil =>
    cases h
    exact .nil
  | cons item items ih =>
    rw [List.mapM_cons] at h
    obtain ⟨first, hfirst, h⟩ := Option.bind_eq_some_iff.mp h
    obtain ⟨later, hlater, h⟩ := Option.bind_eq_some_iff.mp h
    cases h
    exact .cons hfirst (ih hlater)

theorem eq_map_of_mapM {items : List α} {values : List β} (h : items.mapM f = some values)
    {g : β → α} (inverse : ∀ item value, f item = some value → item = g value) :
    items = values.map g := by
  rw [← List.forall₂_eq_eq_eq, List.forall₂_map_right_iff]
  exact (forall₂_of_mapM h).imp inverse

theorem map_eq_of_mapM {items : List α} {values : List β} (h : items.mapM f = some values)
    {g : α → β} (direct : ∀ item value, f item = some value → g item = value) :
    values = items.map g := by
  rw [eq_comm, ← List.forall₂_eq_eq_eq, List.forall₂_map_left_iff]
  exact (forall₂_of_mapM h).imp direct

theorem filterMap_of_mapM {items : List α} {values : List β} (h : items.mapM f = some values) :
    items.filterMap f = values := by
  have hall := forall₂_of_mapM h
  clear h
  induction hall with
  | nil => rfl
  | cons hfirst _ ih => rw [List.filterMap_cons_some hfirst, ih]

theorem getElem?_of_mapM {items : List α} {values : List β} (h : items.mapM f = some values)
    {place : Nat} {item : α} (hitem : items[place]? = some item) : values[place]? = f item := by
  have hall := forall₂_of_mapM h
  clear h
  induction hall generalizing place with
  | nil => cases hitem
  | cons hfirst hlater ih =>
    cases place with
    | zero =>
      cases hitem
      exact hfirst.symm
    | succ place => exact ih hitem

/-! ## Fields -/

def named (entry : String × Json) : Literal × Json := (some entry.1, entry.2)

/-- What a record holds under a name, or a list in a place. -/
def member? (name : String) (place : Nat) : Json → Option Json
  | .record members => (members.find? fun m => m.1 == some name).map (·.2)
  | .list items => items[place]?
  | _ => none

theorem find?_named {field : Field} {name : String} (names : field.names = [name])
    {members : List (String × Json)} {value : Option Json} (h : field.find? members = some value) :
    ((members.map named).find? fun m => m.1 == some name).map (·.2) = value := by
  have hsame : (fun m => m.1 == some name) ∘ named = fun m => field.names.contains m.1 := by
    funext m
    simp [named, names, Bool.beq_eq_decide_eq]
  rw [List.find?_map, hsame, ← List.head?_filter]
  unfold Field.find? at h
  split at h
  · next hnone =>
    split at h
    · cases h
      rw [hnone]
      rfl
    · cases h
  · next m hone =>
    cases h
    rw [hone]
    rfl
  · cases h

theorem getElem?_fieldsInOrder {shape : List Field} {items : List Json} {values : List (Option Json)}
    (h : fieldsInOrder shape items = some values) (place : Nat) :
    (values[place]?).join = items[place]? := by
  fun_induction fieldsInOrder shape items generalizing values place with
  | case1 =>
    cases h
    rfl
  | case2 => cases h
  | case3 field shape _ ih =>
    obtain ⟨later, hlater, rfl⟩ := Option.map_eq_some_iff.mp h
    cases place with
    | zero => rfl
    | succ place => exact ih hlater place
  | case4 => cases h
  | case5 field shape item items ih =>
    obtain ⟨later, hlater, rfl⟩ := Option.map_eq_some_iff.mp h
    cases place with
    | zero => rfl
    | succ place => exact ih hlater place

theorem length_fieldsInOrder {shape : List Field} {items : List Json} {values : List (Option Json)}
    (h : fieldsInOrder shape items = some values) : values.length = shape.length := by
  fun_induction fieldsInOrder shape items generalizing values with
  | case1 =>
    cases h
    rfl
  | case2 => cases h
  | case3 field shape _ ih =>
    obtain ⟨later, hlater, rfl⟩ := Option.map_eq_some_iff.mp h
    rw [List.length_cons, List.length_cons, ih hlater]
  | case4 => cases h
  | case5 field shape item items ih =>
    obtain ⟨later, hlater, rfl⟩ := Option.map_eq_some_iff.mp h
    rw [List.length_cons, List.length_cons, ih hlater]

theorem length_fields? {shape : List Field} {document : Json} {values : List (Option Json)}
    (h : fields? shape document = some values) : values.length = shape.length := by
  unfold fields? at h
  split at h
  · obtain ⟨entries, -, h⟩ := Option.bind_eq_some_iff.mp h
    exact (forall₂_of_mapM h).length_eq.symm
  · exact length_fieldsInOrder h
  · cases h

theorem member?_of_fields? {shape : List Field} {document : Json} {values : List (Option Json)}
    (h : fields? shape document = some values) (place : Nat) {field : Field} {name : String}
    (hfield : shape[place]? = some field) (names : field.names = [name]) :
    document.member? name place = (values[place]?).join := by
  unfold fields? at h
  split at h
  · next members =>
    obtain ⟨entries, hentries, h⟩ := Option.bind_eq_some_iff.mp h
    have hmembers : members = entries.map named := by
      refine eq_map_of_mapM hentries ?_
      rintro ⟨name, value⟩ entry hentry
      obtain ⟨text, rfl, rfl⟩ := Option.map_eq_some_iff.mp hentry
      rfl
    have hvalue := getElem?_of_mapM h hfield
    have hplace : place < values.length := by
      rw [← (forall₂_of_mapM h).length_eq]
      exact (List.getElem?_eq_some_iff.mp hfield).1
    rw [List.getElem?_eq_getElem hplace] at hvalue ⊢
    rw [hmembers, member?, find?_named names hvalue.symm]
    rfl
  · next items => exact (getElem?_fieldsInOrder h place).symm
  · cases h

theorem text?_of_textOrNull? {value : Json} {text : Option String}
    (h : textOrNull? value = some text) : value.text? = text := by
  unfold textOrNull? at h
  split at h
  · cases h
    rfl
  · obtain ⟨text, rfl, rfl⟩ := Option.map_eq_some_iff.mp h
    rfl
  · cases h

end CodeEditor.Json
