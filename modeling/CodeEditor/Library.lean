import CodeEditor.Builtin
import CodeEditor.Grammar.Document
import CodeEditor.Settings
import CodeEditor.Theme.Document

/-! # Finding themes and grammars by name

A name stands for a file in one of some directories, the first that has it, or else for what is always
at hand. The name that was loaded last is kept in the settings as the preferred one.
-/

namespace CodeEditor

/-- What can be found by name, and how. -/
structure ResourceKind (α : Type) where
  label : String
  /-- The extension of its files. -/
  fileExtension : String
  /-- What is at hand without a file. -/
  builtin : List (String × α)
  /-- Reads a file, given the name for one that gives itself none. -/
  parse? : List Char → String → Option α
  /-- The name of the setting with the preferred one. -/
  setting : String
  /-- The name of the one that is taken when none is preferred. -/
  standard : String

namespace ResourceKind

def theme : ResourceKind Theme where
  label := "theme"
  fileExtension := "pstheme"
  builtin := Builtin.themes.map fun t => (t.name, t)
  parse? := Theme.parse?
  setting := "preferredTheme"
  standard := "Default"

def grammar : ResourceKind Grammar where
  label := "grammar"
  fileExtension := "psgrammar"
  builtin := Builtin.grammars.map fun g => (g.name, g)
  parse? := Grammar.parse?
  setting := "preferredGrammar"
  standard := "HP Prime PPL"

end ResourceKind

structure Library where
  /-- Where files are looked for, in this order. -/
  directories : List Path
  settings : Settings
  /-- The name that was loaded last, by the label of its kind. -/
  loaded : Dictionary String
  deriving Inhabited

namespace Library

inductive Failure where
  | disk (cause : Disk.Cause)
  | malformed
  | notFound (label name : String)
  deriving DecidableEq, Repr

def Failure.message : Failure → String
  | disk cause => "I/O error: " ++ cause.message
  | malformed => "JSON error"
  | notFound label name => label ++ " not found: " ++ name

def new (directories : List Path) (settings : Settings) : Library :=
  ⟨directories, settings, .empty⟩

/-! ## Names -/

/-- A name that leads nowhere but into a directory. -/
def isName (name : String) : Bool :=
  let name := Text.trimmed name
  name != "" && name != "." && name != ".." &&
    !name.toList.contains '/' && !name.toList.contains '\\'

/-- The files that a name can stand for, blanks around it apart. -/
def candidates {α : Type} (l : Library) (kind : ResourceKind α) (name : String) : List Path :=
  l.directories.map fun directory =>
    directory.join ⟨Text.trimmed name ++ "." ++ kind.fileExtension⟩

variable {α : Type}

def find (l : Library) (d : Disk) (kind : ResourceKind α) (name : String) : Except Failure α :=
  if !isName name then .error (.notFound kind.label name)
  else
    let trimmed := Text.trimmed name
    match (l.candidates kind name).find? d.isFile with
    | some file =>
      match d.readText file with
      | .error cause => .error (.disk cause)
      | .ok text =>
        match kind.parse? text trimmed with
        | some value => .ok value
        | none => .error .malformed
    | none =>
      match kind.builtin.lookup trimmed with
      | some value => .ok value
      | none => .error (.notFound kind.label trimmed)

/-- The names of a kind in a directory. -/
def namesIn (kind : ResourceKind α) (d : Disk) (directory : Path) : List String :=
  match d.list directory with
  | .error _ => []
  | .ok names => names.filterMap fun name =>
    match Path.splitExtension name with
    | (stem, some found) => if found = kind.fileExtension then some stem else none
    | (_, none) => none

/-- All names of a kind, in order. -/
def available (l : Library) (d : Disk) (kind : ResourceKind α) : List String :=
  let names := kind.builtin.map (·.1) ++ l.directories.flatMap (namesIn kind d)
  (Dictionary.ofList (names.map (·, ()))).entries.map (·.1)

/-! ## Loading -/

def current? (l : Library) (kind : ResourceKind α) : Option String := l.loaded.find? kind.label

/-- This name was loaded last. -/
def isCurrent (l : Library) (kind : ResourceKind α) (name : String) : Bool :=
  l.current? kind == some (Text.trimmed name)

/-- Loads what a name stands for, and prefers it from then on. If that fails, nothing changes. -/
def load (l : Library) (d : Disk) (kind : ResourceKind α) (name : String) :
    Library × Disk × Option α :=
  match l.find d kind name with
  | .error _ => (l, d, none)
  | .ok value =>
    let name := Text.trimmed name
    let (settings, d) := l.settings.setText d kind.setting name
    ({ l with settings := settings, loaded := l.loaded.insert kind.label name }, d, some value)

/-- The preferred name, unless it is blank. -/
def preferred? (l : Library) (kind : ResourceKind α) : Option String :=
  ((l.settings.text? kind.setting).map Text.trimmed).filter (· ≠ "")

/-- Loads the preferred one, or else the standard one. -/
def loadPreferred (l : Library) (d : Disk) (kind : ResourceKind α) : Library × Disk × Option α :=
  match l.preferred? kind with
  | none => l.load d kind kind.standard
  | some name =>
    match l.load d kind name with
    | (l, d, some value) => (l, d, some value)
    | (l, d, none) => l.load d kind kind.standard

end Library

end CodeEditor
