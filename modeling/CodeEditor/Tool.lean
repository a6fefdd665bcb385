import CodeEditor.Shell.Run
import CodeEditor.Text.Blank

/-! # Running other programs

A tool is told which file to read and which one to write. What it prints is kept.
-/

namespace CodeEditor

structure ToolCall where
  program : Path
  source : Path
  target : Path
  flags : List String
  deriving DecidableEq, Repr

/-- The arguments of the program: the files, then the flags. -/
def ToolCall.arguments (c : ToolCall) : List String :=
  c.source.text :: "-o" :: c.target.text :: c.flags

/-- What a tool has printed, and its exit code. -/
structure ToolOutput where
  output : List Char
  errors : List Char
  exitCode : Int
  deriving DecidableEq, Repr

namespace ToolOutput

/-- The exit code of a program that a signal has stopped. -/
def stopped : Int := -1

def succeeded (o : ToolOutput) : Bool := o.exitCode == 0

/-- What to tell the user: what was printed on success, what was printed as errors on failure, or the
exit code when there is nothing. -/
def message (o : ToolOutput) : List Char :=
  if o.succeeded then Text.trimEnd o.output
  else
    let errors := Text.trimEnd o.errors
    if errors.isEmpty then ("tool exited with code " ++ toString o.exitCode).toList else errors

end ToolOutput

/-- A program that cannot be started, and why. -/
structure LaunchFailure where
  program : Path
  cause : Disk.Cause
  deriving DecidableEq, Repr

def LaunchFailure.message (f : LaunchFailure) : String :=
  "Failed to launch '" ++ f.program.text ++ "': " ++ f.cause.message

namespace Tool

/-- The names of the program that runs scripts. -/
def shells : List String := ["sh", "dash", "bash"]

/-- The programs of the system that tools may be. -/
def utilities : List String :=
  ["cat", "true", "false", "touch", "cp", "mv", "rm", "mkdir", "seq", "head", "sleep", "printf"]

/-- The name of a program of the system: one without a directory, or in one for programs. -/
def systemName? (program : Path) : Option String :=
  if program.text.toList.contains '/' then
    [["bin"], ["usr", "bin"]].findSome? fun directory =>
      match program.lastName? with
      | some name =>
        if program.isAbsolute && program.names == directory ++ [name] then some name else none
      | none => none
  else some program.text

/-- The output of a script. -/
def ofResult (r : Shell.Result) : ToolOutput × Disk :=
  let exitCode :=
    match r.status with
    | some status => (status : Int)
    | none => ToolOutput.stopped
  (⟨Text.Utf8.decodeLossy r.output, Text.Utf8.decodeLossy r.errors, exitCode⟩, r.disk)

/-- Runs the script in the file that is the first argument. -/
def runScript (d : Disk) (program : Path) : List String → ToolOutput × Disk
  | [] => (⟨[], [], 0⟩, d)
  | script :: arguments =>
    match d.readBytes ⟨script⟩ with
    | .ok bytes => ofResult (Shell.runText d script arguments (Text.Utf8.decodeLossy bytes))
    | .error _ =>
      let explained := program.text ++ ": 0: cannot open " ++ script ++ ": No such file\n"
      (⟨[], explained.toList, 2⟩, d)

def runSystem? (d : Disk) (program : Path) (arguments : List String) : Option (ToolOutput × Disk) := do
  let name ← systemName? program
  if shells.contains name then some (runScript d program arguments)
  else if utilities.contains name then
    (Shell.Utility.run? d [] name arguments).map fun outcome =>
      ofResult ⟨outcome.output, outcome.errors, some outcome.status, outcome.disk⟩
  else none

/-- The first line of a script says that it is one, and names a shell. -/
def isScript (text : List Char) : Bool :=
  let line := text.takeWhile (· != '\n')
  ['#', '!'].isPrefixOf line && shells.any fun shell => shell.toList.isSuffixOf
    (Text.trimEnd ((line.drop 2).takeWhile (· != '-')))

/-- Runs a tool, unless it cannot be started. -/
def launch (d : Disk) (c : ToolCall) : Except LaunchFailure (ToolOutput × Disk) :=
  match runSystem? d c.program c.arguments with
  | some done => .ok done
  | none =>
    if !c.program.text.toList.contains '/' then .error ⟨c.program, .missing⟩
    else
      match d.find c.program with
      | .error cause => .error ⟨c.program, cause⟩
      | .ok (_, .directory) => .error ⟨c.program, .denied⟩
      | .ok (_, .file bytes executable) =>
        let text := Text.Utf8.decodeLossy bytes
        if !executable then .error ⟨c.program, .denied⟩
        else if !isScript text then .error ⟨c.program, .notProgram⟩
        else .ok (ofResult (Shell.runText d c.program.text c.arguments text))

end Tool

end CodeEditor
