import CodeEditor.Disk
import CodeEditor.Json.Reader
import CodeEditor.Json.Settled
import CodeEditor.Json.Writer
import CodeEditor.Text.Blank

/-! # Settings

Values by name, kept in memory only or in a file as well. The file is written anew with every change;
when that fails, the change still counts until the program ends.
-/

namespace CodeEditor

structure Settings where
  values : Dictionary Json
  /-- Where the values are kept. -/
  file : Option Path
  deriving Inhabited

namespace Settings

/-- Settings that are kept in memory, with no values. -/
def memory : Settings := ⟨.empty, none⟩

/-! ## Files -/

/-- The values that the text of a file writes. A text that is no record stands for no values. -/
def valuesOf (text : List Char) : Dictionary Json :=
  match (Json.parse? text).bind (Json.settled? Json.maxDepth) with
  | some (.record members) =>
    .ofList (members.filterMap fun (name, value) => name.map (·, value))
  | _ => .empty

/-- The text of a file for some values. -/
def textOf (values : Dictionary Json) : List Char :=
  Json.pretty 0 (.record (values.entries.map fun (name, value) => (some name, value)))

/-- Settings kept in a file. One that is missing or cannot be read stands for no values. -/
def openFile (d : Disk) (file : Path) : Settings :=
  match d.readText file with
  | .ok text => ⟨valuesOf text, some file⟩
  | .error _ => ⟨.empty, some file⟩

/-- The file that is written first and then takes the place of the other. -/
def temporary (file : Path) : Path := file.withExtension "json.tmp"

/-- The disk with the directory of a file. -/
def withDirectory (d : Disk) (file : Path) : Except Disk.Cause Disk :=
  match file.parent? with
  | none => .ok d
  | some parent => if parent.text = "" then .ok d else d.makeDirectories parent

/-- Writes the values to the file, as far as that can be done. -/
def save (s : Settings) (d : Disk) : Disk :=
  match s.file with
  | none => d
  | some file =>
    match withDirectory d file with
    | .error _ => d
    | .ok d =>
      match d.write (temporary file) (Text.Utf8.encode (textOf s.values)) with
      | .error _ => d
      | .ok d =>
        match d.rename (temporary file) file with
        | .error _ => d
        | .ok d => d

/-! ## Values -/

/-- The value of a name, if that is a text. -/
def text? (s : Settings) (name : String) : Option String :=
  match s.values.find? name with
  | some (.text value) => value
  | _ => none

/-- The value of a name, if that is true or false. -/
def bool? (s : Settings) (name : String) : Option Bool :=
  match s.values.find? name with
  | some (.bool value) => some value
  | _ => none

def set (s : Settings) (d : Disk) (name : String) (value : Json) : Settings × Disk :=
  let s := { s with values := s.values.insert name value }
  (s, s.save d)

def setText (s : Settings) (d : Disk) (name text : String) : Settings × Disk :=
  s.set d name (.text (some text))

def setBool (s : Settings) (d : Disk) (name : String) (value : Bool) : Settings × Disk :=
  s.set d name (.bool value)

/-- Takes its value from a name. The file is not written when there is none. -/
def remove (s : Settings) (d : Disk) (name : String) : Settings × Disk :=
  if s.values.contains name then
    let s := { s with values := s.values.erase name }
    (s, s.save d)
  else (s, d)

end Settings

end CodeEditor
