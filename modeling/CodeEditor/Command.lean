/-! # Commands and the keys bound to them -/

namespace CodeEditor

inductive Command where
  | insertText (text : List Char)
  | insertNewline
  | insertTab
  | backspace
  | deleteForward
  | moveLeft (select : Bool)
  | moveRight (select : Bool)
  | moveLineStart (select : Bool)
  | moveLineEnd (select : Bool)
  | selectAll
  | undo
  | redo
  | selectTheme (name : String)
  | selectGrammar (name : String)
  | setSmartSubstitution (enabled : Bool)
  | toggleSmartSubstitution
  | scrollTo (firstVisible : Nat)
  deriving DecidableEq, Repr

inductive Key where
  | char (c : Char)
  | enter
  | tab
  | backspace
  | delete
  | arrowLeft
  | arrowRight
  | home
  | endOfLine
  deriving DecidableEq, Repr

/-- A key with the modifier keys held down. -/
structure Chord where
  key : Key
  command : Bool
  shift : Bool
  alt : Bool
  deriving DecidableEq, Repr

namespace Chord

/-- The key alone. -/
def plain (key : Key) : Chord := ⟨key, false, false, false⟩

def withCommand (key : Key) : Chord := ⟨key, true, false, false⟩

def withShift (key : Key) : Chord := ⟨key, false, true, false⟩

def withCommandShift (key : Key) : Chord := ⟨key, true, true, false⟩

end Chord

inductive MenuAction where
  | undo
  | redo
  | selectAll
  | toggleSmartSubstitution
  | theme (name : String)
  | grammar (name : String)
  deriving DecidableEq, Repr

def MenuAction.command : MenuAction → Command
  | undo => .undo
  | redo => .redo
  | selectAll => .selectAll
  | toggleSmartSubstitution => .toggleSmartSubstitution
  | theme name => .selectTheme name
  | grammar name => .selectGrammar name

inductive UserEvent where
  | key (chord : Chord)
  | text (text : List Char)
  | menu (action : MenuAction)
  deriving DecidableEq, Repr

/-- The command of each chord that has one. -/
structure Bindings where
  entries : List (Chord × Command)
  deriving DecidableEq, Repr

namespace Bindings

def empty : Bindings := ⟨[]⟩

def lookup (b : Bindings) (chord : Chord) : Option Command := b.entries.lookup chord

/-- Takes the command from a chord, and answers it. -/
def unbind (b : Bindings) (chord : Chord) : Bindings × Option Command :=
  (⟨b.entries.filter (·.1 != chord)⟩, b.lookup chord)

/-- Gives a chord a command, and answers the one that it had. -/
def bind (b : Bindings) (chord : Chord) (command : Command) : Bindings × Option Command :=
  (⟨(chord, command) :: (b.unbind chord).1.entries⟩, b.lookup chord)

/-- The usual keys. With shift, those that move the cursor select. -/
def standard : Bindings :=
  ⟨[(.plain .enter, .insertNewline), (.plain .tab, .insertTab), (.plain .backspace, .backspace),
    (.plain .delete, .deleteForward), (.withCommand (.char 'a'), .selectAll),
    (.withCommand (.char 'z'), .undo), (.withCommandShift (.char 'z'), .redo),
    (.withCommand (.char 'y'), .redo), (.plain .arrowLeft, .moveLeft false),
    (.plain .arrowRight, .moveRight false), (.plain .home, .moveLineStart false),
    (.plain .endOfLine, .moveLineEnd false), (.withShift .arrowLeft, .moveLeft true),
    (.withShift .arrowRight, .moveRight true), (.withShift .home, .moveLineStart true),
    (.withShift .endOfLine, .moveLineEnd true)]⟩

instance : Inhabited Bindings := ⟨standard⟩

/-- The command for what the user does; a chord without one and an empty text have none. -/
def resolve (b : Bindings) : UserEvent → Option Command
  | .key chord => b.lookup chord
  | .text text => if text.isEmpty then none else some (.insertText text)
  | .menu action => some action.command

end Bindings

end CodeEditor
