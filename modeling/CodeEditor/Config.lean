import CodeEditor.Flag
import CodeEditor.Number.Typed
import CodeEditor.Session

/-! # Configuration from the environment

A variable that is missing, or holds something that cannot be used, leaves the usual value.
-/

namespace CodeEditor

/-- The environment in which a program is started. -/
structure Environment where
  assignments : List (String × String)
  workingDirectory : Path
  deriving DecidableEq, Repr

namespace Environment

def get? (e : Environment) (name : String) : Option String := e.assignments.lookup name

/-- The value of a variable, unless it is blank. -/
def getFilled? (e : Environment) (name : String) : Option String :=
  (e.get? name).filter (!Text.isAllBlank ·)

/-- The variable is set to a word for yes. -/
def isSet (e : Environment) (name : String) : Bool :=
  ((e.get? name).bind Flag.ofWord?).getD false

/-- The directory of the user, or else the working directory. -/
def home (e : Environment) : Path :=
  match e.getFilled? "HOME" with
  | some home => ⟨home⟩
  | none =>
    match e.getFilled? "USERPROFILE" with
    | some profile => ⟨profile⟩
    | none =>
      match e.getFilled? "HOMEDRIVE", e.getFilled? "HOMEPATH" with
      | some drive, some path => ⟨drive ++ path⟩
      | _, _ => e.workingDirectory

/-- A path in which a tilde at the start stands for the directory of the user. -/
def expand (e : Environment) (path : String) : Path :=
  match path.toList with
  | '~' :: '/' :: rest => e.home.join ⟨String.ofList rest⟩
  | _ => ⟨path⟩

/-- Where the program keeps its files. -/
def configRoot (e : Environment) : Path := (e.home.join ⟨".config"⟩).join ⟨"primestudio"⟩

end Environment

structure Config where
  /-- Where themes and grammars are looked for, in this order. -/
  directories : List Path
  settingsFile : Path
  family : String
  size : Number.Single
  tabWidth : UInt8
  traceHighlighting : Bool
  deriving DecidableEq, Repr

namespace Config

/-- The paths between colons, empty ones left out. -/
def directoriesOf (e : Environment) (paths : String) : List Path :=
  ((Text.splitString ':' paths).filter (· ≠ "")).map e.expand

def ofEnvironment (e : Environment) : Config :=
  let directories :=
    match e.get? "PRIMESTUDIO_RESOURCE_DIRS" with
    | some paths => directoriesOf e paths
    | none => []
  let size := (e.get? "PRIMESTUDIO_FONT_SIZE").bind fun s => Number.Single.ofTyped? (Text.trimmed s)
  let width := (e.get? "PRIMESTUDIO_TAB_WIDTH").bind fun s => Number.byteOfTyped? (Text.trimmed s)
  { directories :=
      if directories.isEmpty then [e.configRoot.join ⟨"resources"⟩] else directories
    settingsFile :=
      match e.get? "PRIMESTUDIO_SETTINGS_PATH" with
      | some path => e.expand path
      | none => e.configRoot.join ⟨"settings.json"⟩
    family :=
      ((e.getFilled? "PRIMESTUDIO_FONT").map Text.trimmed).getD EditorOptions.standard.family
    size := (size.filter (·.isPositive)).getD EditorOptions.standard.size
    tabWidth := (width.filter (0 < ·)).getD EditorOptions.standard.tabWidth
    traceHighlighting := e.isSet "PRIMESTUDIO_HIGHLIGHT_TRACE" }

/-- The options of an editor with this configuration. -/
def options (c : Config) : EditorOptions :=
  ⟨c.family, c.size, c.tabWidth, false, c.traceHighlighting⟩

/-- The base attributes of text in a theme. -/
def base (c : Config) (t : Theme) : Attributes := c.options.base t

/-- A library that looks into some directories before the configured ones. -/
def library (c : Config) (extra : List Path) (settings : Settings) : Library :=
  .new (extra ++ c.directories) settings

end Config

end CodeEditor
