import CodeEditor.Disk.Path
import CodeEditor.Text.Offset
import CodeEditor.Text.Utf8

/-! # Files and directories -/

namespace CodeEditor

/-- What stands at a place of the disk. -/
inductive Node where
  | file (bytes : List UInt8) (executable : Bool)
  | directory
  deriving DecidableEq, Repr

/-- A place of the disk: the names that lead to it from the top, last one first. -/
abbrev Location := List String

structure Disk where
  /-- What stands where. Each place occurs once; the top is a directory and need not occur. -/
  entries : List (Location × Node)
  workingDirectory : Location
  deriving DecidableEq, Repr

namespace Disk

/-- Why something cannot be done on a disk. -/
inductive Cause where
  | missing
  | notProgram
  | denied
  | exists
  | notDirectory
  | isDirectory
  | nameTooLong
  | nulInName
  | notText
  deriving DecidableEq, Repr

def Cause.message : Cause → String
  | missing => "No such file or directory (os error 2)"
  | notProgram => "Exec format error (os error 8)"
  | denied => "Permission denied (os error 13)"
  | .exists => "File exists (os error 17)"
  | notDirectory => "Not a directory (os error 20)"
  | isDirectory => "Is a directory (os error 21)"
  | nameTooLong => "File name too long (os error 36)"
  | nulInName => "file name contained an unexpected NUL byte"
  | notText => "stream did not contain valid UTF-8"

/-- A place and those on the way to it from the top, which is left out. -/
def wayTo : Location → List Location
  | [] => []
  | name :: parent => (name :: parent) :: wayTo parent

/-- A disk with nothing but the directories that lead to the working directory. -/
def empty (workingDirectory : Location) : Disk :=
  ⟨(wayTo workingDirectory).map (·, Node.directory), workingDirectory⟩

instance : Inhabited Disk := ⟨empty []⟩

/-! ## Places -/

def node? (d : Disk) (l : Location) : Option Node :=
  if l.isEmpty then some .directory else d.entries.lookup l

/-- Puts something at a place, in place of what was there. -/
def place (d : Disk) (l : Location) (n : Node) : Disk :=
  { d with entries := (l, n) :: d.entries.filter (·.1 != l) }

/-- Takes away what stands at a place. -/
def clear (d : Disk) (l : Location) : Disk :=
  { d with entries := d.entries.filter (·.1 != l) }

def namesIn (d : Disk) (l : Location) : List String :=
  d.entries.filterMap fun (place, _) =>
    match place with
    | name :: parent => if parent = l then some name else none
    | [] => none

/-- How long a name may be, in bytes. -/
def maxNameBytes : Nat := 255

/-- The place to which a name leads from another one. -/
def step (l : Location) (name : String) : Location :=
  if name = "." then l else if name = ".." then l.tail else name :: l

/-- The place to which names lead. All but the last one must lead to directories. -/
def follow (d : Disk) (l : Location) : List String → Except Cause Location
  | [] => .ok l
  | name :: names =>
    match d.node? l with
    | none => .error .missing
    | some (.file _ _) => .error .notDirectory
    | some .directory =>
      if maxNameBytes < Text.byteLength name.toList then .error .nameTooLong
      else follow d (step l name) names

/-- The place to which a path leads, whether or not anything stands there. -/
def locate (d : Disk) (p : Path) : Except Cause Location :=
  if p.text = "" then .error .missing
  else if p.text.toList.contains (Char.ofNat 0) then .error .nulInName
  else d.follow (if p.isAbsolute then [] else d.workingDirectory) p.names

def find (d : Disk) (p : Path) : Except Cause (Location × Node) := do
  let l ← d.locate p
  match d.node? l with
  | some n => .ok (l, n)
  | none => .error .missing

/-! ## Reading -/

def isFile (d : Disk) (p : Path) : Bool :=
  match d.find p with
  | .ok (_, .file _ _) => true
  | _ => false

def readBytes (d : Disk) (p : Path) : Except Cause (List UInt8) := do
  match ← d.find p with
  | (_, .file bytes _) => .ok bytes
  | (_, .directory) => .error .isDirectory

def readText (d : Disk) (p : Path) : Except Cause (List Char) := do
  match Text.Utf8.decode? (← d.readBytes p) with
  | some text => .ok text
  | none => .error .notText

def list (d : Disk) (p : Path) : Except Cause (List String) := do
  match ← d.find p with
  | (l, .directory) => .ok (d.namesIn l)
  | _ => .error .notDirectory

/-! ## Writing -/

/-- The place for a new file: nothing stands there, but the directory around it does. -/
def placeForNew (d : Disk) (p : Path) (l : Location) : Except Cause Location :=
  if p.names.getLast? = some "." then .error .isDirectory
  else
    match d.node? l.tail with
    | some .directory => .ok l
    | some (.file _ _) => .error .notDirectory
    | none => .error .missing

/-- Writes a file, making it if there is none. -/
def write (d : Disk) (p : Path) (bytes : List UInt8) : Except Cause Disk := do
  let l ← d.locate p
  match d.node? l with
  | some .directory => .error .isDirectory
  | some (.file _ executable) => .ok (d.place l (.file bytes executable))
  | none => return d.place (← d.placeForNew p l) (.file bytes false)

/-- Makes every place on a way a directory. -/
def makeWay (d : Disk) (l : Location) : List String → Except Cause Disk
  | [] => .ok d
  | name :: names =>
    if maxNameBytes < Text.byteLength name.toList then .error .nameTooLong
    else
      let l := step l name
      match d.node? l with
      | some .directory => makeWay d l names
      | some (.file _ _) => .error .notDirectory
      | none => makeWay (d.place l .directory) l names

/-- Makes a directory and those that are missing on the way to it. -/
def makeDirectories (d : Disk) (p : Path) : Except Cause Disk :=
  d.makeWay (if p.isAbsolute then [] else d.workingDirectory) p.names

/-- Moves a file, in place of one that may stand there. -/
def rename (d : Disk) (source target : Path) : Except Cause Disk := do
  match ← d.find source with
  | (_, .directory) => .error .isDirectory
  | (l, .file bytes executable) =>
    let target' ← d.locate target
    match d.node? target' with
    | some .directory => .error .isDirectory
    | some (.file _ _) => .ok ((d.clear l).place target' (.file bytes executable))
    | none =>
      let target' ← d.placeForNew target target'
      .ok ((d.clear l).place target' (.file bytes executable))

def remove (d : Disk) (p : Path) : Except Cause Disk := do
  match ← d.find p with
  | (l, .file _ _) => .ok (d.clear l)
  | (_, .directory) => .error .isDirectory

end Disk

end CodeEditor
