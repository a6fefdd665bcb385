import CodeEditor.Disk
import CodeEditor.Number.Written
import CodeEditor.Shell.Arithmetic

/-! # The commands that scripts can use -/

namespace CodeEditor.Shell

structure Outcome where
  output : List UInt8
  errors : List UInt8
  status : Nat
  disk : Disk
  /-- The input that has not been read. -/
  input : List UInt8

namespace Outcome

/-- Nothing but a status. -/
def quiet (d : Disk) (input : List UInt8) (status : Nat) : Outcome := ⟨[], [], status, d, input⟩

/-- Success, with something printed. -/
def printed (d : Disk) (input output : List UInt8) : Outcome := ⟨output, [], 0, d, input⟩

/-- Failure, with a line of explanation. -/
def failed (d : Disk) (input : List UInt8) (message : String) : Outcome :=
  ⟨[], Text.Utf8.encode (message.toList ++ ['\n']), 1, d, input⟩

end Outcome

namespace Utility

/-- Why a command cannot do something, in short. -/
def reason (cause : Disk.Cause) : String :=
  match cause with
  | .missing => "No such file or directory"
  | .notProgram => "Exec format error"
  | .denied => "Permission denied"
  | .exists => "File exists"
  | .notDirectory => "Not a directory"
  | .isDirectory => "Is a directory"
  | .nameTooLong => "File name too long"
  | .nulInName => "Invalid argument"
  | .notText => "Invalid argument"

/-! ## Printing -/

/-- Up to `digits` octal digits, their value and what follows them. -/
def octal (digits value : Nat) : List Char → Nat × List Char
  | [] => (value, [])
  | c :: rest =>
    match digits with
    | 0 => (value, c :: rest)
    | digits + 1 =>
      if '0' ≤ c && c ≤ '7' then octal digits (value * 8 + (c.toNat - '0'.toNat)) rest
      else (value, c :: rest)

/-- The byte of a letter after a backslash. -/
def escapedByte? : Char → Option UInt8
  | 'n' => some 10
  | 't' => some 9
  | 'r' => some 13
  | 'a' => some 7
  | 'b' => some 8
  | 'f' => some 12
  | 'v' => some 11
  | '\\' => some 92
  | _ => none

/-- What follows a backslash in a format: the bytes it stands for and the rest. -/
def escaped (text : List Char) : List UInt8 × List Char :=
  match text with
  | [] => ([92], [])
  | c :: rest =>
    if '0' ≤ c && c ≤ '7' then
      let (value, rest) := octal 3 0 text
      ([UInt8.ofNat value], rest)
    else
      match escapedByte? c with
      | some b => ([b], rest)
      | none => (92 :: String.utf8EncodeChar c, rest)

/-- A text in which backslashes are followed by codes. The second part is false when the code that
stops all printing was met. -/
def expanded : (fuel : Nat) → List Char → List UInt8 × Bool
  | 0, _ => ([], true)
  | fuel + 1, text =>
    match text with
    | [] => ([], true)
    | '\\' :: 'c' :: _ => ([], false)
    | '\\' :: '0' :: rest =>
      let (value, rest) := octal 3 0 rest
      let (bytes, goesOn) := expanded fuel rest
      (UInt8.ofNat value :: bytes, goesOn)
    | '\\' :: rest =>
      match rest with
      | c :: after =>
        let (bytes, goesOn) := expanded fuel after
        match escapedByte? c with
        | some b => (b :: bytes, goesOn)
        | none => (92 :: String.utf8EncodeChar c ++ bytes, goesOn)
      | [] => ([92], true)
    | c :: rest =>
      let (bytes, goesOn) := expanded fuel rest
      (String.utf8EncodeChar c ++ bytes, goesOn)

/-- Prints its words, with blanks between them and the codes after backslashes expanded. -/
def echo (words : List String) : List UInt8 :=
  let (endsLine, words) :=
    match words with
    | "-n" :: rest => (false, rest)
    | rest => (true, rest)
  let text := ((words.map String.toList).intersperse [' ']).flatten
  let (bytes, goesOn) := expanded (text.length + 1) text
  if endsLine && goesOn then bytes ++ [10] else bytes

/-- A text for a column of some width, to its left when `left` is set. -/
def padded (left : Bool) (width : Nat) (fill : Char) (text : List Char) : List Char :=
  let missing := List.replicate (width - text.length) fill
  if left then text ++ missing else missing ++ text

/-- What a directive of a format prints for an argument. -/
def formatted (directive : Char) (argument : String) : List UInt8 :=
  let number := Arithmetic.numberOf argument.toList
  match directive with
  | 's' => Text.Utf8.encode argument.toList
  | 'b' => (expanded (argument.length + 1) argument.toList).1
  | 'c' => Text.Utf8.encode (argument.toList.take 1)
  | 'x' => Text.Utf8.encode (Nat.toDigits 16 number.toNat)
  | 'o' => Text.Utf8.encode (Nat.toDigits 8 number.toNat)
  | _ => Text.Utf8.encode (toString number).toList

/-- One pass through a format: what it prints, and the arguments that are left. -/
def printOnce : (fuel : Nat) → List Char → List String → List UInt8 × List String
  | 0, _, arguments => ([], arguments)
  | fuel + 1, format, arguments =>
    match format with
    | [] => ([], arguments)
    | '\\' :: rest =>
      let (bytes, rest) := escaped rest
      let (more, arguments) := printOnce fuel rest arguments
      (bytes ++ more, arguments)
    | '%' :: '%' :: rest =>
      let (more, arguments) := printOnce fuel rest arguments
      (37 :: more, arguments)
    | '%' :: rest =>
      let left := rest.head? == some '-'
      let rest := if left then rest.tail else rest
      let fill := if rest.head? == some '0' && !left then '0' else ' '
      let width := Number.ofDigits (Number.Numeral.digits rest)
      match Number.Numeral.afterDigits rest with
      | [] => ([37], arguments)
      | directive :: rest =>
        let bytes := formatted directive (arguments.head?.getD "")
        let shown := padded left width fill (bytes.map fun b => Char.ofNat b.toNat)
        let (more, arguments) := printOnce fuel rest arguments.tail
        (shown.map (fun c => UInt8.ofNat c.toNat) ++ more, arguments)
    | c :: rest =>
      let (more, arguments) := printOnce fuel rest arguments
      (String.utf8EncodeChar c ++ more, arguments)

/-- Goes through a format until no arguments are left, but at least once. -/
def printAll : (fuel : Nat) → List Char → List String → List UInt8
  | 0, _, _ => []
  | fuel + 1, format, arguments =>
    let (bytes, left) := printOnce (format.length + 1) format arguments
    if left.isEmpty || left.length == arguments.length then bytes
    else bytes ++ printAll fuel format left

/-! ## Tests -/

/-- A condition on files, texts or numbers; none when it makes no sense. -/
def condition? (d : Disk) : List String → Option Bool
  | [] => some false
  | ["!"] => some true
  | [text] => some (text != "")
  | ["!", text] => some (text == "")
  | [operator, operand] =>
    let node? : Option Node := (d.find ⟨operand⟩).toOption.map (·.2)
    match operator with
    | "-z" => some (operand == "")
    | "-n" => some (operand != "")
    | "-e" => some node?.isSome
    | "-f" => some (d.isFile ⟨operand⟩)
    | "-d" => some (node? == some .directory)
    | "-s" => some (match node? with
      | some (.file bytes _) => !bytes.isEmpty
      | some .directory => true
      | none => false)
    | "-r" => some node?.isSome
    | "-w" => some node?.isSome
    | "-x" => some (match node? with
      | some (.file _ executable) => executable
      | some .directory => true
      | none => false)
    | _ => none
  | ["!", operator, operand] => (condition? d [operator, operand]).map (!·)
  | [left, operator, right] =>
    let a := Arithmetic.numberOf left.toList
    let b := Arithmetic.numberOf right.toList
    match operator with
    | "=" => some (left == right)
    | "==" => some (left == right)
    | "!=" => some (left != right)
    | "-eq" => some (a == b)
    | "-ne" => some (a != b)
    | "-lt" => some (a < b)
    | "-le" => some (a ≤ b)
    | "-gt" => some (b < a)
    | "-ge" => some (b ≤ a)
    | _ => none
  | ["!", left, operator, right] => (condition? d [left, operator, right]).map (!·)
  | _ => none

def test (d : Disk) (input : List UInt8) (words : List String) : Outcome :=
  match condition? d words with
  | some true => .quiet d input 0
  | some false => .quiet d input 1
  | none => { Outcome.failed d input "test: bad expression" with status := 2 }

/-! ## Files -/

/-- Prints files, or the input where a dash stands. -/
def cat (d : Disk) (input : List UInt8) : List String → Outcome
  | [] => .quiet d input 0
  | name :: names =>
    if name = "-" then
      let rest := cat d [] names
      { rest with output := input ++ rest.output, input := [] }
    else
      let rest := cat d input names
      match d.readBytes ⟨name⟩ with
      | .ok bytes => { rest with output := bytes ++ rest.output }
      | .error cause =>
        let explained := Outcome.failed d input ("cat: " ++ name ++ ": " ++ reason cause)
        { rest with errors := explained.errors ++ rest.errors, status := 1 }

/-- Does something to the disk for each name, as long as it can be done. -/
def forEach (command : String) (change : Disk → Path → Except Disk.Cause Disk) (d : Disk)
    (input : List UInt8) : List String → Outcome
  | [] => .quiet d input 0
  | name :: names =>
    match change d ⟨name⟩ with
    | .ok d => forEach command change d input names
    | .error cause => .failed d input (command ++ ": " ++ name ++ ": " ++ reason cause)

/-- Makes a file unless there is something already. -/
def touch (d : Disk) (p : Path) : Except Disk.Cause Disk :=
  match d.find p with
  | .ok _ => .ok d
  | .error _ => d.write p []

/-- Writes the bytes of one file to another. -/
def copy (d : Disk) (source target : Path) : Except Disk.Cause Disk := do
  d.write target (← d.readBytes source)

/-- The numbers from one to another. -/
def count (first : Int) (size : Nat) : List UInt8 :=
  (List.range size).flatMap fun (i : Nat) =>
    Text.Utf8.encode (toString (first + (i : Int)) ++ "\n").toList

/-- The lines at the start of some bytes. -/
def firstLines : Nat → List UInt8 → List UInt8
  | _, [] => []
  | 0, _ => []
  | lines + 1, b :: rest => b :: firstLines (if b = 10 then lines else lines + 1) rest

/-- Runs a command on its arguments; none when there is no command of that name. -/
def run? (d : Disk) (input : List UInt8) (name : String) (arguments : List String) :
    Option Outcome :=
  match name with
  | "echo" => some (.printed d input (echo arguments))
  | "printf" =>
    match arguments with
    | [] => some { Outcome.failed d input "printf: usage: printf format [arg ...]" with status := 2 }
    | format :: rest =>
      some (.printed d input (printAll (rest.length + 1) format.toList rest))
  | "cat" => some (cat d input (if arguments.isEmpty then ["-"] else arguments))
  | "true" => some (.quiet d input 0)
  | ":" => some (.quiet d input 0)
  | "sleep" => some (.quiet d input 0)
  | "sync" => some (.quiet d input 0)
  | "false" => some (.quiet d input 1)
  | "test" => some (test d input arguments)
  | "[" =>
    if arguments.getLast? == some "]" then some (test d input arguments.dropLast)
    else some { Outcome.failed d input "[: missing ]" with status := 2 }
  | "touch" => some (forEach name touch d input arguments)
  | "rm" =>
    let flags := ["-f", "-r", "-rf"]
    some (forEach name Disk.remove d input (arguments.filter (!flags.contains ·)))
  | "mkdir" => some (forEach name Disk.makeDirectories d input (arguments.filter (· != "-p")))
  | "cp" =>
    match arguments with
    | [source, target] => some (forEach name (fun d p => copy d p ⟨target⟩) d input [source])
    | _ => some (.failed d input "cp: missing operand")
  | "mv" =>
    match arguments with
    | [source, target] => some (forEach name (fun d p => d.rename p ⟨target⟩) d input [source])
    | _ => some (.failed d input "mv: missing operand")
  | "seq" =>
    match arguments.map fun a => Arithmetic.numberOf a.toList with
    | [last] => some (.printed d input (count 1 last.toNat))
    | [first, last] => some (.printed d input (count first (last - first + 1).toNat))
    | _ => some (.failed d input "seq: missing operand")
  | "head" =>
    match arguments with
    | ["-n", lines] =>
      some (.printed d [] (firstLines (Arithmetic.numberOf lines.toList).toNat input))
    | ["-c", bytes] => some (.printed d [] (input.take (Arithmetic.numberOf bytes.toList).toNat))
    | _ => some (.printed d [] (firstLines 10 input))
  | _ => none

end Utility

end CodeEditor.Shell
