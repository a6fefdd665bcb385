import CodeEditor.Occurrences
import CodeEditor.Tool

/-! # Command-line arguments

Options may stand before and after the command. An option with a value has it in the next argument,
or after an equals sign. What stands after two dashes is no option.
-/

namespace CodeEditor.CommandLine

inductive Command where
  /-- Print a file in colors. -/
  | highlight (file : Path) (theme grammar : Option String) (markers : List String)
      (mode : CaseMode)
  | themes
  | grammars
  | run (call : ToolCall)
  /-- Print a script that completes command lines in a shell. -/
  | completions (shell : String)
  deriving DecidableEq, Repr

/-- What the arguments ask for. -/
inductive Request where
  | command (directories : List Path) (command : Command)
  | help
  | version
  deriving DecidableEq, Repr

/-! ## Options -/

inductive OptionKind where
  | switch
  /-- A value. Paths are not empty, and options that are not `repeatable` have one value. -/
  | value (isPath repeatable : Bool)
  deriving DecidableEq, Repr

/-- An option, and the letter that may stand for it. -/
structure OptionSpec where
  name : String
  letter : Option Char
  kind : OptionKind
  deriving DecidableEq, Repr

/-- A command: its options, and how many positional arguments it has. -/
structure CommandSpec where
  name : String
  options : List OptionSpec
  positionals : Nat
  /-- The positional arguments are paths. -/
  arePaths : Bool
  /-- Arguments after two dashes are kept apart from the positional ones. -/
  hasFlags : Bool
  deriving DecidableEq, Repr

/-- A directory to look into before the configured ones. -/
def resourceDirectory : OptionSpec := ⟨"resource-dir", none, .value true true⟩

def commands : List CommandSpec :=
  [⟨"highlight",
      [⟨"theme", none, .value false false⟩, ⟨"grammar", none, .value false false⟩,
        ⟨"bold", none, .value false true⟩, ⟨"ignore-case", none, .switch⟩], 1, true, false⟩,
    ⟨"themes", [], 0, true, false⟩, ⟨"grammars", [], 0, true, false⟩,
    ⟨"run", [⟨"dest", some 'o', .value true false⟩], 2, true, true⟩,
    ⟨"completions", [], 1, false, false⟩]

/-- The shells that there are completions for. -/
def shells : List String := ["bash", "elvish", "fish", "powershell", "zsh"]

/-! ## Reading -/

structure Parsed where
  /-- The options met, with their values. -/
  options : List (String × String)
  positionals : List String
  flags : List String
  deriving DecidableEq, Repr

inductive Stop where
  | help
  | version
  | wrong
  deriving DecidableEq, Repr

namespace Parsed

def empty : Parsed := ⟨[], [], []⟩

/-- The values of an option, in order. -/
def values (p : Parsed) (name : String) : List String :=
  p.options.filterMap fun (option, value) => if option = name then some value else none

def value? (p : Parsed) (name : String) : Option String := (p.values name).head?

/-- Adds an option, if it can be given. -/
def add (p : Parsed) (o : OptionSpec) (value : String) : Except Stop Parsed :=
  let repeated := !(p.values o.name).isEmpty
  let wrong :=
    match o.kind with
    | .switch => repeated
    | .value isPath repeatable => (isPath && value == "") || (repeated && !repeatable)
  if wrong then .error .wrong else .ok { p with options := p.options ++ [(o.name, value)] }

end Parsed

/-- An argument that looks like an option. -/
def isDashed (argument : String) : Bool :=
  match argument.toList with
  | '-' :: _ :: _ => true
  | _ => false

/-- The option that an argument gives, and the value in the same argument. -/
def optionOf? (specs : List OptionSpec) (argument : String) :
    Option (OptionSpec × Option String) :=
  match argument.toList with
  | '-' :: '-' :: text =>
    let name := String.ofList (text.takeWhile (· != '='))
    (specs.find? (·.name == name)).map fun spec =>
      match text.dropWhile (· != '=') with
      | '=' :: value => (spec, some (String.ofList value))
      | _ => (spec, none)
  | '-' :: letter :: text =>
    (specs.find? (·.letter == some letter)).map fun spec =>
      match text with
      | [] => (spec, none)
      | '=' :: value => (spec, some (String.ofList value))
      | value => (spec, some (String.ofList value))
  | _ => none

/-- The option of a question about the program itself. -/
def questionOf? (atTop : Bool) (argument : String) : Option Stop :=
  match argument.toList with
  | '-' :: 'h' :: _ => some .help
  | '-' :: 'V' :: _ => if atTop then some .version else none
  | _ =>
    if argument = "--help" then some .help
    else if atTop && argument = "--version" then some .version
    else none

def readCommand (spec : CommandSpec) (p : Parsed) : List String → Except Stop Parsed
  | [] => .ok p
  | "--" :: rest =>
    if spec.hasFlags then .ok { p with flags := rest }
    else .ok { p with positionals := p.positionals ++ rest }
  | argument :: rest =>
    if !isDashed argument then
      if p.positionals.length < spec.positionals then
        readCommand spec { p with positionals := p.positionals ++ [argument] } rest
      else .error .wrong
    else
      match questionOf? false argument with
      | some stop => .error stop
      | none =>
        match optionOf? (resourceDirectory :: spec.options) argument with
        | none => .error .wrong
        | some (o, some value) =>
          match o.kind, p.add o value with
          | .switch, _ => .error .wrong
          | _, .ok p => readCommand spec p rest
          | _, .error stop => .error stop
        | some (o, none) =>
          match o.kind, rest with
          | .switch, rest =>
            match p.add o "" with
            | .ok p => readCommand spec p rest
            | .error stop => .error stop
          | .value _ _, [] => .error .wrong
          | .value _ _, value :: rest =>
            if isDashed value then .error .wrong
            else
              match p.add o value with
              | .ok p => readCommand spec p rest
              | .error stop => .error stop

def commandOf (spec : CommandSpec) (p : Parsed) : Except Stop Command :=
  if p.positionals.length != spec.positionals then .error .wrong
  else if spec.arePaths && p.positionals.contains "" then .error .wrong
  else
    match spec.name, p.positionals with
    | "highlight", [file] =>
      .ok (.highlight ⟨file⟩ (p.value? "theme") (p.value? "grammar") (p.values "bold")
        (if (p.value? "ignore-case").isSome then .ignored else .sensitive))
    | "themes", _ => .ok .themes
    | "grammars", _ => .ok .grammars
    | "run", [program, source] =>
      match p.value? "dest" with
      | some target => .ok (.run ⟨⟨program⟩, ⟨source⟩, ⟨target⟩, p.flags⟩)
      | none => .error .wrong
    | "completions", [shell] =>
      if shells.contains shell then .ok (.completions shell) else .error .wrong
    | _, _ => .error .wrong

/-- Reads a question about a command. -/
def readHelp : List String → Except Stop Request
  | [] => .ok .help
  | [name] =>
    if name = "help" || commands.any (·.name == name) then .ok .help
    else if name = "--help" || name = "-h" then .ok .help
    else .error .wrong
  | _ => .error .wrong

/-- Reads all arguments. Directories given after the command take the place of those before it. -/
def readAll (p : Parsed) : List String → Except Stop Request
  | [] => .error .wrong
  | argument :: rest =>
    if !isDashed argument then
      if argument = "help" then readHelp rest
      else
        match commands.find? (·.name == argument) with
        | none => .error .wrong
        | some spec => do
          let inner ← readCommand spec .empty rest
          let command ← commandOf spec inner
          let directories :=
            if (inner.values resourceDirectory.name).isEmpty then p.values resourceDirectory.name
            else inner.values resourceDirectory.name
          .ok (.command (directories.map Path.mk) command)
    else
      match questionOf? true argument with
      | some stop => .error stop
      | none =>
        match optionOf? [resourceDirectory] argument with
        | none => .error .wrong
        | some (o, some value) =>
          match p.add o value with
          | .ok p => readAll p rest
          | .error stop => .error stop
        | some (o, none) =>
          match rest with
          | [] => .error .wrong
          | value :: rest =>
            if isDashed value then .error .wrong
            else
              match p.add o value with
              | .ok p => readAll p rest
              | .error stop => .error stop

/-- What the arguments ask for; none when they are wrong. -/
def Request.ofArguments? (arguments : List String) : Option Request :=
  match readAll .empty arguments with
  | .ok request => some request
  | .error .help => some .help
  | .error .version => some .version
  | .error .wrong => none

end CodeEditor.CommandLine
