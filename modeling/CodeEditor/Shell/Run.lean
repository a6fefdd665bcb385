import CodeEditor.Shell.Reader
import CodeEditor.Shell.Utility

/-! # Running scripts -/

namespace CodeEditor.Shell

/-- Where the bytes of a stream go. -/
inductive Sink where
  | output
  | errors
  | file (place : Location)
  | nowhere
  deriving DecidableEq, Repr

/-- What stays the same while a command runs. -/
structure Frame where
  /-- The name of the script. -/
  script : String
  /-- Where the numbered streams go. -/
  sinks : List (Nat × Sink)

def Frame.sink (f : Frame) (stream : Nat) : Sink := (f.sinks.lookup stream).getD .nowhere

structure State where
  disk : Disk
  assigned : List (String × List Char)
  arguments : List (List Char)
  /-- The status of the last command. -/
  status : Nat
  /-- What has been printed, last byte first. -/
  output : List UInt8
  /-- What has been printed as errors, last byte first. -/
  errors : List UInt8
  /-- What has not been read yet. -/
  input : List UInt8
  /-- The script is over: with this status, or without one when it was stopped by a signal. -/
  ended : Option (Option Nat)

namespace State

/-- Adds bytes to the place that they go to. -/
def put (s : State) (sink : Sink) (bytes : List UInt8) : State :=
  match sink with
  | .output => { s with output := bytes.foldl (fun out b => b :: out) s.output }
  | .errors => { s with errors := bytes.foldl (fun out b => b :: out) s.errors }
  | .nowhere => s
  | .file place =>
    match s.disk.node? place with
    | some (.file old executable) =>
      { s with disk := s.disk.place place (.file (old ++ bytes) executable) }
    | _ => s

/-- Prints a line of explanation, with a status. -/
def complain (s : State) (f : Frame) (message : String) (status : Nat) : State :=
  { s.put (f.sink 2) (Text.Utf8.encode (message ++ "\n").toList) with status := status }

def assign (s : State) (name : String) (value : List Char) : State :=
  { s with assigned := (name, value) :: s.assigned.filter (·.1 != name) }

def processNumber : List Char := ['4', '2', '4', '2']

def value (s : State) (f : Frame) (name : String) : List Char :=
  match name with
  | "#" => (toString s.arguments.length).toList
  | "?" => (toString s.status).toList
  | "$" => processNumber
  | "0" => f.script.toList
  | "@" => (s.arguments.intersperse [' ']).flatten
  | "*" => (s.arguments.intersperse [' ']).flatten
  | name =>
    if !name.isEmpty && name.toList.all Text.isAsciiDigit then
      ((s.arguments)[Number.ofDigits (Number.Numeral.digits name.toList) - 1]?).getD []
    else (s.assigned.lookup name).getD []

end State

/-! ## Words -/

inductive Piece where
  /-- A character that belongs to its field. -/
  | fixed (c : Char)
  /-- A character that ends its field if it is a blank. -/
  | loose (c : Char)
  /-- There is a field here, even an empty one. -/
  | here
  /-- The field ends. -/
  | next
  deriving DecidableEq, Repr

namespace Piece

def ofText (quoted : Bool) (text : List Char) : List Piece :=
  if quoted then here :: text.map fixed else text.map loose

/-- The fields that pieces make up. `current` is the one that has been begun. -/
def fields (current : Option (List Char)) : List Piece → List (List Char)
  | [] => current.toList.map List.reverse
  | fixed c :: rest => fields (some (c :: current.getD [])) rest
  | here :: rest => fields (some (current.getD [])) rest
  | next :: rest => current.toList.map List.reverse ++ fields none rest
  | loose c :: rest =>
    if c == ' ' || c == '\t' || c == '\n' then
      current.toList.map List.reverse ++ fields none rest
    else fields (some (c :: current.getD [])) rest

/-- The characters of pieces that are not split into fields. -/
def flat (pieces : List Piece) : List Char :=
  pieces.filterMap fun piece =>
    match piece with
    | fixed c => some c
    | loose c => some c
    | here => none
    | next => some ' '

end Piece

/-- A text with a pattern of characters, question marks and stars. -/
def glob : (fuel : Nat) → List Piece → List Char → Bool
  | 0, _, _ => false
  | fuel + 1, pattern, text =>
    match pattern, text with
    | [], [] => true
    | [], _ :: _ => false
    | .here :: pattern, text => glob fuel pattern text
    | .next :: pattern, text => glob fuel pattern text
    | .loose '*' :: pattern, [] => glob fuel pattern []
    | .loose '*' :: pattern, c :: text =>
      glob fuel pattern (c :: text) || glob fuel (.loose '*' :: pattern) text
    | .loose '?' :: pattern, _ :: text => glob fuel pattern text
    | .loose p :: pattern, c :: text => p == c && glob fuel pattern text
    | .fixed p :: pattern, c :: text => p == c && glob fuel pattern text
    | _ :: _, [] => false

/-! ## Commands -/

/-- Opens the file of a redirection, emptied unless it is appended to. -/
def openFor (s : State) (empty : Bool) (p : Path) : Except Disk.Cause (State × Sink) := do
  let d ←
    match s.disk.find p with
    | .ok (_, .directory) => throw .isDirectory
    | .ok (_, .file _ _) => if empty then s.disk.write p [] else pure s.disk
    | .error _ => s.disk.write p []
  return ({ s with disk := d }, .file (← d.locate p))

/-- Why a file cannot be opened for a redirection. -/
def openFailure (reading : Bool) (name : String) (cause : Disk.Cause) : String :=
  let verb := if reading then "cannot open " else "cannot create "
  let why :=
    match cause with
    | .missing => if reading then "No such file" else "Directory nonexistent"
    | cause => Utility.reason cause
  verb ++ name ++ ": " ++ why

/-- Commands that act on the script itself. -/
def control? (s : State) (f : Frame) (name : String) (arguments : List String) : Option State :=
  match name with
  | "exit" =>
    let status :=
      match arguments with
      | [] => s.status
      | status :: _ => ((Arithmetic.numberOf status.toList) % 256).toNat
    some { s with status := status, ended := some (some status) }
  | "kill" =>
    if arguments.contains (String.ofList State.processNumber) then some { s with ended := some none }
    else some (s.complain f "kill: No such process" 1)
  | "shift" =>
    let size :=
      match arguments with
      | [] => 1
      | size :: _ => (Arithmetic.numberOf size.toList).toNat
    some { s with arguments := s.arguments.drop size, status := 0 }
  | "set" => some { s with status := 0 }
  | "export" => some { s with status := 0 }
  | "pwd" =>
    let place := "/" ++ "/".intercalate s.disk.workingDirectory.reverse
    some { s.put (f.sink 1) (Text.Utf8.encode (place ++ "\n").toList) with status := 0 }
  | _ => none

def runCommand (s : State) (f : Frame) (line : Nat) (name : String) (arguments : List String) :
    State :=
  match control? s f name arguments with
  | some s => s
  | none =>
    match Utility.run? s.disk s.input name arguments with
    | some outcome =>
      let s := { s with disk := outcome.disk, input := outcome.input, status := outcome.status }
      (s.put (f.sink 1) outcome.output).put (f.sink 2) outcome.errors
    | none =>
      s.complain f (f.script ++ ": " ++ toString line ++ ": " ++ name ++ ": not found") 127

mutual

def expand (f : Frame) : (fuel : Nat) → State → Word → State × List Piece
  | 0, s, _ => (s, [])
  | _ + 1, s, [] => (s, [])
  | fuel + 1, s, part :: parts =>
    let (s, pieces) :=
      match part with
      | .text chars true => (s, .here :: chars.map .fixed)
      | .text chars false =>
        (s, chars.map fun c => if c == '*' || c == '?' then .loose c else .fixed c)
      | .parameter "@" _ true =>
        (s, (s.arguments.map fun a => .here :: a.map .fixed).intersperse [.next] |>.flatten)
      | .parameter name fallback quoted =>
        let value := s.value f name
        match fallback with
        | some text =>
          if value.isEmpty then (s, Piece.ofText quoted text) else (s, Piece.ofText quoted value)
        | none => (s, Piece.ofText quoted value)
      | .arithmetic source quoted =>
        let number name := Arithmetic.numberOf (s.value f name)
        let (s, source) :=
          match Token.readQuoted (source.length + 2) (source ++ ['"']) with
          | some (inside, _) =>
            let (s, pieces) := expand f fuel s inside
            (s, Piece.flat pieces)
          | none => (s, source)
        match Arithmetic.evaluate? number source with
        | some value => (s, Piece.ofText quoted (toString value).toList)
        | none => (s.complain f (f.script ++ ": arithmetic expression") 2, [])
      | .output source quoted =>
        match Script.parse? source with
        | none => (s, [])
        | some script =>
          let inner := run { f with sinks := (1, .output) :: f.sinks } fuel
            { s with output := [] } script
          let text := Text.Utf8.decodeLossy (inner.output.dropWhile (· == 10)).reverse
          ({ s with disk := inner.disk, errors := inner.errors, status := inner.status },
            Piece.ofText quoted text)
    let (s, more) := expand f fuel s parts
    (s, pieces ++ more)

/-- The fields of some words. -/
def expandAll (f : Frame) : (fuel : Nat) → State → List Word → State × List (List Char)
  | 0, s, _ => (s, [])
  | _ + 1, s, [] => (s, [])
  | fuel + 1, s, word :: words =>
    let (s, pieces) := expand f fuel s word
    let (s, more) := expandAll f fuel s words
    (s, Piece.fields none pieces ++ more)

/-- Gives variables their values. -/
def assignAll (f : Frame) : (fuel : Nat) → State → List (String × Word) → State
  | 0, s, _ => s
  | _ + 1, s, [] => s
  | fuel + 1, s, (name, word) :: rest =>
    let (s, pieces) := expand f fuel s word
    assignAll f fuel (s.assign name (Piece.flat pieces)) rest

/-- Connects streams. The state has a status of failure when a file cannot be opened. -/
def redirect (f : Frame) : (fuel : Nat) → State → List Redirect → Option (Frame × State) × State
  | 0, s, _ => (none, s)
  | _ + 1, s, [] => (some (f, s), s)
  | fuel + 1, s, r :: rs =>
    let (s, pieces) := expand f fuel s r.target
    let name := String.ofList (Piece.flat pieces)
    match r.kind with
    | .duplicate =>
      let sink := if name = "-" then .nowhere else f.sink (Arithmetic.numberOf name.toList).toNat
      redirect { f with sinks := (r.stream, sink) :: f.sinks } fuel s rs
    | .input =>
      if name = "/dev/null" then redirect f fuel { s with input := [] } rs
      else
        match s.disk.readBytes ⟨name⟩ with
        | .ok bytes => redirect f fuel { s with input := bytes } rs
        | .error cause => (none, s.complain f (f.script ++ ": " ++ openFailure true name cause) 2)
    | kind =>
      if name = "/dev/null" then
        redirect { f with sinks := (r.stream, .nowhere) :: f.sinks } fuel s rs
      else
        match openFor s (kind == .output) ⟨name⟩ with
        | .ok (s, sink) => redirect { f with sinks := (r.stream, sink) :: f.sinks } fuel s rs
        | .error cause => (none, s.complain f (f.script ++ ": " ++ openFailure false name cause) 2)

/-- Runs a script. Nothing runs once the script is over. -/
def run (f : Frame) : (fuel : Nat) → State → Script → State
  | 0, s, _ => s
  | fuel + 1, s, script =>
    if s.ended.isSome then s
    else
      match script with
      | .nothing => { s with status := 0 }
      | .simple line assignments words redirects =>
        let (s, fields) := expandAll f fuel s words
        let input := s.input
        match redirect f fuel s redirects with
        | (none, s) => s
        | (some (inner, s), _) =>
          match fields.map String.ofList with
          | [] => { assignAll f fuel { s with status := 0 } assignments with input := input }
          | name :: arguments =>
            let s' := runCommand (assignAll f fuel s assignments) inner line name arguments
            if redirects.any (·.kind == .input) then { s' with input := input } else s'
      | .sequence first second =>
        match second with
        | .nothing => run f fuel s first
        | second => run f fuel (run f fuel s first) second
      | .also onFailure first second =>
        let s := run f fuel s first
        if (s.status != 0) == onFailure then run f fuel s second else s
      | .negated body =>
        let s := run f fuel s body
        { s with status := if s.status = 0 then 1 else 0 }
      | .pipe first second =>
        let left := run { f with sinks := (1, .output) :: f.sinks } fuel { s with output := [] } first
        let right := run f fuel
          { s with
            disk := left.disk
            errors := left.errors
            input := left.output.reverse } second
        { right with
          input := s.input
          assigned := s.assigned
          arguments := s.arguments
          ended := none }
      | .branch condition body otherwise =>
        let s := run f fuel s condition
        if s.status = 0 then run f fuel s body else run f fuel s otherwise
      | .loop onFailure condition body =>
        let s := run f fuel s condition
        if s.ended.isSome then s
        else if (s.status != 0) == onFailure then
          run f fuel (run f fuel s body) (.loop onFailure condition body)
        else { s with status := 0 }
      | .each name words body =>
        let (s, fields) :=
          match words with
          | some words => expandAll f fuel s words
          | none => (s, s.arguments)
        runEach f fuel { s with status := 0 } name fields body
      | .choose word patterns body otherwise =>
        let (s, pieces) := expand f fuel s word
        let subject := Piece.flat pieces
        let found := patterns.any fun pattern =>
          let pieces := (expand f fuel s pattern).2
          glob (pieces.length + subject.length + 1) pieces subject
        if found then run f fuel s body else run f fuel s otherwise
      | .group apart body redirects =>
        let input := s.input
        match redirect f fuel s redirects with
        | (none, s) => s
        | (some (inner, s), _) =>
          let s' := run inner fuel s body
          let s' := if redirects.any (·.kind == .input) then { s' with input := input } else s'
          if apart then
            { s' with assigned := s.assigned, arguments := s.arguments, ended := none }
          else s'

/-- Runs a script for every field. -/
def runEach (f : Frame) : (fuel : Nat) → State → String → List (List Char) → Script → State
  | 0, s, _, _, _ => s
  | fuel + 1, s, name, fields, body =>
    match fields with
    | [] => s
    | field :: rest => runEach f fuel (run f fuel (s.assign name field) body) name rest body

end

def maxSteps : Nat := 1000000

/-- What a script has printed, and its status, which is missing when it was stopped by a signal. -/
structure Result where
  output : List UInt8
  errors : List UInt8
  status : Option Nat
  disk : Disk

/-- Runs the text of a script on its arguments, with no input. -/
def runText (d : Disk) (name : String) (arguments : List String) (text : List Char) : Result :=
  match Script.parse? text with
  | none => ⟨[], Text.Utf8.encode (name ++ ": Syntax error\n").toList, some 2, d⟩
  | some script =>
    let s := run ⟨name, [(1, .output), (2, .errors)]⟩ maxSteps
      { disk := d
        assigned := []
        arguments := arguments.map String.toList
        status := 0
        output := []
        errors := []
        input := []
        ended := none } script
    ⟨s.output.reverse, s.errors.reverse, s.ended.getD (some s.status), s.disk⟩

end CodeEditor.Shell
