import CodeEditor.CommandLine.Arguments
import CodeEditor.Config
import CodeEditor.Terminal

/-! # The command line -/

namespace CodeEditor.CommandLine

/-- What a run of the program leaves behind. -/
structure Outcome where
  output : List Char
  errors : List Char
  exitCode : UInt8
  disk : Disk

namespace Outcome

/-- Success, with something printed. -/
def printed (d : Disk) (output : List Char) : Outcome := ⟨output, [], 0, d⟩

end Outcome

inductive Failure where
  | unreadable (file : Path) (cause : Disk.Cause)
  | resource (failure : Library.Failure)
  /-- Neither the preferred nor the standard one can be loaded. -/
  | nothingLoaded (label : String)
  | launch (failure : LaunchFailure)
  deriving DecidableEq, Repr

namespace Failure

def message : Failure → String
  | unreadable file _ => "failed to read " ++ file.text
  | resource failure => failure.message
  | nothingLoaded label => "no " ++ label ++ " could be loaded"
  | launch failure => failure.message

/-- What lies behind the failure. -/
def cause? : Failure → Option String
  | unreadable _ cause => some cause.message
  | resource (.disk cause) => some cause.message
  | launch failure => some failure.cause.message
  | _ => none

def explanation (f : Failure) : String :=
  "Error: " ++ f.message ++ "\n" ++
    match f.cause? with
    | some cause => "\nCaused by:\n    " ++ cause ++ "\n"
    | none => ""

end Failure

/-! ## Listing -/

/-- The names, each in a line, with a mark before the preferred one. -/
def listing (names : List String) (preferred : String) : List Char :=
  let line (name : String) := (if name = preferred then "* " else "  ") ++ name
  ((names.map fun name => (line name).toList).intersperse ['\n']).flatten

/-- The name that is marked: the preferred one as it is kept, unless that is blank. -/
def marked {α : Type} (l : Library) (kind : ResourceKind α) : String :=
  ((l.settings.text? kind.setting).filter (!Text.isAllBlank ·)).getD kind.standard

def list {α : Type} (d : Disk) (l : Library) (kind : ResourceKind α) : Outcome :=
  .printed d (listing (l.available d kind) (marked l kind) ++ ['\n'])

/-! ## Highlighting -/

/-- What a name stands for, or else the preferred one, which then stays preferred. -/
def choose {α : Type} (d : Disk) (l : Library) (kind : ResourceKind α) (name : Option String) :
    Library × Disk × Except Failure α :=
  match name with
  | some name =>
    match l.find d kind name with
    | .ok value => (l, d, .ok value)
    | .error failure => (l, d, .error (.resource failure))
  | none =>
    match l.loadPreferred d kind with
    | (l, d, some value) => (l, d, .ok value)
    | (l, d, none) => (l, d, .error (.nothingLoaded kind.label))

/-- The text of a file in the colors of a theme, with the markers in bold. -/
def styled (c : Config) (theme : Theme) (grammar : Grammar) (markers : List String)
    (mode : CaseMode) (text : List Char) : StyledText :=
  let base := c.base theme
  let painted := (Highlight.once (.plain text base) grammar (.ofGrammar theme grammar) base).1
  (painted.emboldenAll mode (markers.map String.toList)).1

/-- A file for the terminal. The disk changes where preferences are kept. -/
def highlight (c : Config) (d : Disk) (l : Library) (file : Path) (theme grammar : Option String)
    (markers : List String) (mode : CaseMode) : Disk × Except Failure (List Char) :=
  match d.readText file with
  | .error cause => (d, .error (.unreadable file cause))
  | .ok text =>
    match choose d l .theme theme with
    | (_, d, .error failure) => (d, .error failure)
    | (l, d, .ok theme) =>
      match choose d l .grammar grammar with
      | (_, d, .error failure) => (d, .error failure)
      | (_, d, .ok grammar) =>
        (d, .ok (Terminal.render (styled c theme grammar markers mode text)))

/-- The text with a line feed at its end. -/
def closed (text : List Char) : List Char :=
  if text.getLast? = some '\n' then text else text ++ ['\n']

/-! ## Running -/

def failed (d : Disk) (f : Failure) : Outcome := ⟨[], f.explanation.toList, 1, d⟩

/-- What is printed about a tool, whose exit code becomes that of the program. -/
def report (o : ToolOutput) (d : Disk) : Outcome :=
  let message := o.message
  if o.succeeded then .printed d (if message.isEmpty then [] else message ++ ['\n'])
  else ⟨[], message ++ ['\n'], UInt8.ofInt o.exitCode, d⟩

/-- The texts about the program itself, as the reader of its arguments has them. -/
class Manual where
  help : List Char
  version : List Char
  /-- What is printed when arguments are wrong. -/
  misuse : List Char
  /-- A script with which a shell completes command lines. -/
  completions : String → List Char

section

variable [Manual]

def execute (e : Environment) (d : Disk) (directories : List Path) (command : Command) : Outcome :=
  let config := Config.ofEnvironment e
  let library := config.library directories (.openFile d config.settingsFile)
  match command with
  | .completions shell => .printed d (Manual.completions shell)
  | .themes => list d library .theme
  | .grammars => list d library .grammar
  | .highlight file theme grammar markers mode =>
    match highlight config d library file theme grammar markers mode with
    | (d, .ok text) => .printed d (closed text)
    | (d, .error failure) => failed d failure
  | .run call =>
    match Tool.launch d call with
    | .ok (output, d) => report output d
    | .error failure => failed d (.launch failure)

/-- A run of the program. Wrong arguments have the exit code 2. -/
def run (e : Environment) (d : Disk) (arguments : List String) : Outcome :=
  match Request.ofArguments? arguments with
  | none => ⟨[], Manual.misuse, 2, d⟩
  | some .help => .printed d Manual.help
  | some .version => .printed d Manual.version
  | some (.command directories command) => execute e d directories command

end

/-- Stands in for the texts, and only gives the name of the program. -/
instance : Manual where
  help := "primestudio\n".toList
  version := "primestudio\n".toList
  misuse := "primestudio\n".toList
  completions _ := "primestudio\n".toList

end CodeEditor.CommandLine
