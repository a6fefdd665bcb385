/-! # Values by name -/

namespace CodeEditor

/-- One value for each of some names, in ascending order of the names. -/
structure Dictionary (α : Type) where
  entries : List (String × α)
  deriving DecidableEq, Repr

namespace Dictionary

variable {α : Type}

def empty : Dictionary α := ⟨[]⟩

instance : Inhabited (Dictionary α) := ⟨empty⟩

def size (d : Dictionary α) : Nat := d.entries.length

def isEmpty (d : Dictionary α) : Bool := d.entries.isEmpty

/-- The value of the first entry with this name. -/
def findIn (name : String) : List (String × α) → Option α
  | [] => none
  | (n, v) :: rest => if n = name then some v else findIn name rest

def find? (d : Dictionary α) (name : String) : Option α := findIn name d.entries

def contains (d : Dictionary α) (name : String) : Bool := (d.find? name).isSome

/-- Puts an entry in its place, in place of one of the same name. -/
def insertInto (name : String) (value : α) : List (String × α) → List (String × α)
  | [] => [(name, value)]
  | (n, v) :: rest =>
    if name = n then (name, value) :: rest
    else if name < n then (name, value) :: (n, v) :: rest
    else (n, v) :: insertInto name value rest

def insert (d : Dictionary α) (name : String) (value : α) : Dictionary α :=
  ⟨insertInto name value d.entries⟩

def erase (d : Dictionary α) (name : String) : Dictionary α :=
  ⟨d.entries.filter (·.1 != name)⟩

/-- Of entries with one name the last one counts. -/
def ofList (entries : List (String × α)) : Dictionary α :=
  entries.foldl (fun d (name, value) => d.insert name value) empty

/-- Changes each value and drops the entries for which there is none. -/
def filterMap {β : Type} (d : Dictionary α) (f : α → Option β) : Dictionary β :=
  ⟨d.entries.filterMap fun (name, value) => (f value).map (name, ·)⟩

@[simp] theorem find?_empty (name : String) : (empty : Dictionary α).find? name = none := rfl

theorem findIn_insertInto (name other : String) (value : α) (entries : List (String × α)) :
    findIn other (insertInto name value entries) =
      if name = other then some value else findIn other entries := by
  induction entries with
  | nil => simp [insertInto, findIn]
  | cons entry rest ih =>
    obtain ⟨n, v⟩ := entry
    simp only [insertInto]
    split
    · next h => subst h; by_cases h : name = other <;> simp [findIn, h]
    · split
      · simp [findIn]
      · simp only [findIn, ih]
        by_cases h : n = other
        · subst h; simp_all
        · simp [h]

theorem find?_insert (d : Dictionary α) (name other : String) (value : α) :
    (d.insert name value).find? other = if name = other then some value else d.find? other :=
  findIn_insertInto name other value d.entries

theorem find?_erase (d : Dictionary α) (name other : String) :
    (d.erase name).find? other = if name = other then none else d.find? other := by
  simp only [find?, erase]
  induction d.entries with
  | nil => simp [findIn]
  | cons entry rest ih =>
    obtain ⟨n, v⟩ := entry
    by_cases hn : n = name
    · subst hn
      simp only [List.filter_cons, bne_self_eq_false, Bool.false_eq_true, if_false, ih, findIn]
      split <;> rfl
    · simp only [List.filter_cons, bne_iff_ne, ne_eq, hn, not_false_eq_true, if_true, findIn, ih]
      by_cases h : n = other
      · subst h; simp [Ne.symm hn]
      · simp [h]

end Dictionary

end CodeEditor
