import CodeEditor.Proofs.Disk
import CodeEditor.Proofs.Json.Settled
import CodeEditor.Proofs.Text.Utf8
import CodeEditor.Settings

/-! # Settings read back

Values that come from a file, or that are texts and truth values, are read back from the file to which
they have been written: not always as the same documents, but as the same texts and truth values.
-/

namespace CodeEditor.Settings

/-! ## Values of a file -/

/-- How deep the values of a record may be nested. -/
def valueDepth : Nat := Json.maxDepth - 1

/-- Values that a file can hold. -/
structure Stable (values : Dictionary Json) : Prop where
  ascending : values.Ascending
  settled : ∀ e ∈ values.entries, e.2.Settled valueDepth

theorem stable_empty : Stable .empty := ⟨Dictionary.ascending_empty, List.forall_mem_nil _⟩

theorem Stable.insert {values : Dictionary Json} (h : Stable values) (name : String) {value : Json}
    (settled : value.Settled valueDepth) : Stable (values.insert name value) := by
  refine ⟨h.ascending.insert name value, fun e he => ?_⟩
  rcases Dictionary.mem_of_mem_insertInto he with rfl | he
  · exact settled
  · exact h.settled e he

theorem filterMap_named (entries : List (String × Json)) :
    (entries.map Json.named).filterMap (fun (name, value) => name.map (·, value)) = entries := by
  rw [List.filterMap_map]
  exact List.filterMap_some

theorem valuesOf_eq {text : List Char} {entries : List (String × Json)}
    (h : (Json.parse? text).bind (Json.settled? Json.maxDepth) =
      some (.record (entries.map Json.named))) : valuesOf text = .ofList entries := by
  unfold valuesOf
  rw [h]
  exact congrArg Dictionary.ofList (filterMap_named entries)

theorem stable_valuesOf (text : List Char) : Stable (valuesOf text) := by
  cases h : (Json.parse? text).bind (Json.settled? Json.maxDepth) with
  | none =>
    unfold valuesOf
    rw [h]
    exact stable_empty
  | some document =>
    obtain ⟨v, hparse, hsettled⟩ := Option.bind_eq_some_iff.mp h
    cases Json.settled_of_settled? (Json.legible_of_parse? hparse) hsettled with
    | record settled =>
      rw [valuesOf_eq h]
      exact ⟨Dictionary.ascending_ofList _,
        fun e he => settled e (Dictionary.mem_of_mem_ofList he)⟩
    | null | bool | number | text | list =>
      unfold valuesOf
      rw [h]
      exact stable_empty

/-! ## Reading what has been written -/

/-- The same names have the same texts and truth values. -/
def Agree (values values' : Dictionary Json) : Prop :=
  ∀ name, (values'.find? name).map Json.plain = (values.find? name).map Json.plain

theorem agree_of_forall₂ {entries entries' : List (String × Json)}
    (h : List.Forall₂ (fun e e' => e'.1 = e.1 ∧ e'.2.plain = e.2.plain) entries entries') :
    Agree ⟨entries⟩ ⟨entries'⟩ := by
  intro name
  induction h with
  | nil => rfl
  | @cons e e' _ _ here _ ih =>
    obtain ⟨hname, hplain⟩ := here
    show (Dictionary.findIn name (e' :: _)).map _ = (Dictionary.findIn name (e :: _)).map _
    rw [Dictionary.findIn, Dictionary.findIn, hname]
    split
    · exact congrArg some hplain
    · exact ih

theorem agree_valuesOf_textOf {values : Dictionary Json} (h : Stable values) :
    Agree values (valuesOf (textOf values)) := by
  have hrecord : Json.Settled Json.maxDepth (.record (values.entries.map Json.named)) :=
    .record h.settled
  have hparse : Json.parse? (textOf values) = some (.record (values.entries.map Json.named)) :=
    Json.parse?_pretty hrecord.legible 0
  obtain ⟨entries, hentries, hall⟩ :=
    Json.exists_settledMembers fun e he => (h.settled e he).exists_settled?
  have hnames : entries.map (·.1) = values.entries.map (·.1) := by
    rw [← List.forall₂_eq_eq_eq, List.forall₂_map_left_iff, List.forall₂_map_right_iff]
    exact hall.flip.imp fun e' e hsettled => hsettled.1
  have hascending : Dictionary.Ascending ⟨entries⟩ := by
    unfold Dictionary.Ascending Dictionary.names
    rw [hnames]
    exact h.ascending
  have hsettled : (Json.parse? (textOf values)).bind (Json.settled? Json.maxDepth) =
      some (.record (entries.map Json.named)) := by
    rw [hparse]
    show Json.settled? (valueDepth + 1) _ = _
    rw [Json.settled?_record, hentries, Option.map_some, hascending.ofList_entries]
  rw [valuesOf_eq hsettled, hascending.ofList_entries]
  exact agree_of_forall₂
    (hall.imp fun e e' hsettled => ⟨hsettled.1, Json.plain_of_settled? hsettled.2⟩)

theorem text?_eq (s : Settings) (name : String) :
    s.text? name = ((s.values.find? name).map Json.plain).bind (·.1) := by
  unfold text?
  cases s.values.find? name with
  | none => rfl
  | some value => cases value <;> rfl

theorem bool?_eq (s : Settings) (name : String) :
    s.bool? name = ((s.values.find? name).map Json.plain).bind (·.2) := by
  unfold bool?
  cases s.values.find? name with
  | none => rfl
  | some value => cases value <;> rfl

theorem find?_set (s : Settings) (d : Disk) (name : String) (value : Json) (other : String) :
    (s.set d name value).1.values.find? other =
      if name = other then some value else s.values.find? other :=
  Dictionary.find?_insert s.values name other value

theorem text?_setBool_of_ne (s : Settings) (d : Disk) (name : String) (value : Bool) (other : String)
    (h : name ≠ other) : (s.setBool d name value).1.text? other = s.text? other := by
  unfold text? setBool
  rw [find?_set, if_neg h]

theorem bool?_setBool (s : Settings) (d : Disk) (name : String) (value : Bool) :
    (s.setBool d name value).1.bool? name = some value := by
  unfold bool? setBool
  rw [find?_set, if_pos rfl]

/-! ## The file -/

/-- The disk after the values have been written to the file, or what has prevented that. -/
def saved? (s : Settings) (d : Disk) : Except Disk.Cause Disk :=
  match s.file with
  | none => .ok d
  | some file => do
    let d ← withDirectory d file
    let d ← d.write (temporary file) (Text.Utf8.encode (textOf s.values))
    d.rename (temporary file) file

variable {s : Settings} {d d' : Disk} {file : Path}

theorem save_of_saved? (h : s.saved? d = .ok d') : s.save d = d' := by
  unfold saved? at h
  unfold save
  cases hfile : s.file with
  | none =>
    rw [hfile] at h
    cases h
    rfl
  | some file =>
    rw [hfile] at h
    obtain ⟨d₁, hdirectory, h⟩ := Disk.exists_of_bind h
    obtain ⟨d₂, hwrite, hrename⟩ := Disk.exists_of_bind h
    simp only [hdirectory, hwrite, hrename]

theorem readText_of_saved? (kept : s.file = some file) (h : s.saved? d = .ok d') :
    d'.readText file = .ok (textOf s.values) := by
  unfold saved? at h
  rw [kept] at h
  obtain ⟨d₁, -, h⟩ := Disk.exists_of_bind h
  obtain ⟨d₂, hwrite, hrename⟩ := Disk.exists_of_bind h
  unfold Disk.readText
  rw [Disk.readBytes_of_rename hwrite hrename]
  simp only [bind, Except.bind, Text.Utf8.decode?_encode]

/-- The file holds the values, as far as they are texts and truth values. -/
structure KeptIn (s : Settings) (d : Disk) (file : Path) : Prop where
  place : s.file = some file
  stable : Stable s.values
  agree : Agree s.values (openFile d file).values

theorem keptIn_openFile (d : Disk) (file : Path) : (openFile d file).KeptIn d file := by
  constructor
  · unfold openFile
    cases d.readText file <;> rfl
  · unfold openFile
    cases d.readText file with
    | ok text => exact stable_valuesOf text
    | error cause => exact stable_empty
  · exact fun name => rfl

theorem keptIn_of_saved? (kept : s.file = some file) (stable : Stable s.values)
    (h : s.saved? d = .ok d') : s.KeptIn d' file := by
  refine ⟨kept, stable, ?_⟩
  unfold openFile
  rw [readText_of_saved? kept h]
  exact agree_valuesOf_textOf stable

theorem KeptIn.congr (h : s.KeptIn d file) (same : d'.readText file = d.readText file) :
    s.KeptIn d' file := by
  refine ⟨h.place, h.stable, ?_⟩
  unfold openFile
  rw [same]
  exact h.agree

theorem KeptIn.set (h : s.KeptIn d file) (name : String) {value : Json}
    (settled : value.Settled valueDepth)
    (saved : ((s.set d name value).1.saved? d).isOk = true) :
    (s.set d name value).1.KeptIn ((s.set d name value).1.save d) file := by
  cases hsaved : (s.set d name value).1.saved? d with
  | error cause =>
    rw [hsaved] at saved
    cases saved
  | ok d' =>
    rw [save_of_saved? hsaved]
    exact keptIn_of_saved? h.place (h.stable.insert name settled) hsaved

end CodeEditor.Settings
