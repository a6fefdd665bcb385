import CodeEditor.Command
import CodeEditor.Gutter
import CodeEditor.History
import CodeEditor.Indent
import CodeEditor.Library
import CodeEditor.Selection
import CodeEditor.Substitution

/-! # An editing session

Every change of the text goes through `Session.edit`, which keeps the buffer, the styled text, the
history and the highlighting in step and announces the change.
-/

namespace CodeEditor

/-- What the user can choose about the editor. -/
structure EditorOptions where
  family : String
  size : Number.Single
  tabWidth : UInt8
  /-- Neighbouring insertions are undone together. -/
  joinTyping : Bool
  traceHighlighting : Bool
  deriving DecidableEq, Repr

namespace EditorOptions

def standard : EditorOptions := ⟨"Menlo", .ofNat 13, 2, false, false⟩

instance : Inhabited EditorOptions := ⟨standard⟩

/-- The attributes of text that no pattern colors. -/
def base (o : EditorOptions) (t : Theme) : Attributes := t.base o.family o.size o.tabWidth

end EditorOptions

inductive Phase where
  | idle
  | mutating
  | highlighting
  deriving DecidableEq, Repr, Inhabited

structure Session where
  buffer : Buffer
  /-- The same text with its attributes. -/
  display : StyledText
  selection : Selection
  history : History
  highlighter : Highlighter
  library : Library
  disk : Disk
  theme : Theme
  grammar : Grammar
  colors : ColorMap
  base : Attributes
  options : EditorOptions
  bindings : Bindings
  bus : EventBus
  gutter : Gutter
  smartSubstitution : Bool
  phase : Phase
  /-- The position in the upper left corner of the view. -/
  firstVisible : Nat
  /-- What the last highlighting pass has met. -/
  report : Highlight.Report
  /-- How many highlighting passes there have been. -/
  passes : Nat
  /-- The time in milliseconds. -/
  clock : Nat
  deriving Inhabited

namespace Session

/-- The name of the setting that says whether typed operators are substituted. -/
def smartSubstitutionSetting : String := "smartSubstitution"

/-! ## Announcing -/

def announce (s : Session) (e : Event) : Session :=
  { s with gutter := s.gutter.observe e, bus := s.bus.publish e }

def announceSelection (s : Session) : Session :=
  s.announce (.selectionChanged s.selection.cursor s.selection.span?)

def announceText (s : Session) : Session := s.announce (.textChanged s.display.revision)

def subscribe (s : Session) : Session × Subscription :=
  let (bus, subscription) := s.bus.subscribe
  ({ s with bus := bus }, subscription)

def unsubscribe (s : Session) (subscription : Subscription) : Session × Bool :=
  let (bus, found) := s.bus.unsubscribe subscription
  ({ s with bus := bus }, found)

/-! ## Highlighting -/

def rehighlight (s : Session) : Session :=
  let s := { s with phase := .highlighting }
  let (highlighter, display, report) := s.highlighter.highlight s.display s.grammar s.colors s.base
  let s :=
    { s with
      highlighter := highlighter
      display := display
      report := report
      passes := s.passes + 1
      phase := .idle }
  s.announce (.highlighted display.revision report)

/-! ## Starting -/

/-- A session with an empty text in the preferred theme and grammar. If none can be loaded, there is a
theme that sets nothing, or a grammar without rules. -/
def start (library : Library) (disk : Disk) (options : EditorOptions) : Session :=
  let (library, disk, theme?) := library.loadPreferred disk .theme
  let (library, disk, grammar?) := library.loadPreferred disk .grammar
  let theme := theme?.getD (.plain ResourceKind.theme.standard)
  let grammar := grammar?.getD (.empty ResourceKind.grammar.standard)
  let base := options.base theme
  rehighlight
    { buffer := ⟨[]⟩
      display := .plain [] base
      selection := .start
      history := .new options.joinTyping
      highlighter := .new
      library := library
      disk := disk
      theme := theme
      grammar := grammar
      colors := .ofGrammar theme grammar
      base := base
      options := options
      bindings := .standard
      bus := .new
      gutter := .new
      smartSubstitution := (library.settings.bool? smartSubstitutionSetting).getD false
      phase := .idle
      firstVisible := 0
      report := .empty
      passes := 0
      clock := 0 }

def wait (s : Session) (milliseconds : Nat) : Session := { s with clock := s.clock + milliseconds }

/-! ## What it shows -/

def text (s : Session) : List Char := s.display.text

def revision (s : Session) : UInt64 := s.display.revision

def cursor (s : Session) : Nat := s.selection.cursor

def lineColumn (s : Session) : Nat × Nat := s.buffer.lineColumn s.cursor

/-! ## The cursor -/

def setCursor (s : Session) (position : Nat) : Session :=
  { s with selection := .place position s.buffer.length }.announceSelection

def select (s : Session) (span : Span) : Session :=
  { s with selection := .«over» span s.buffer.length }.announceSelection

def selectAll (s : Session) : Session :=
  { s with selection := .all s.buffer.length }.announceSelection

def moveCursor (s : Session) (position : Nat) (select : Bool) : Session :=
  { s with selection := s.selection.move position s.buffer.length select }.announceSelection

/-! ## Changing the text -/

/-- Opens another text. Nothing of the one before can be undone. -/
def setText (s : Session) (text : List Char) : Session :=
  { s with
    phase := .mutating
    buffer := ⟨text⟩
    display := s.display.setText text s.base
    history := s.history.clear
    selection := .place 0 text.length
    firstVisible := 0 }.rehighlight.announceText.announceSelection

/-- Puts a text in place of a span, with the cursor behind it or where `cursor?` says. An edit with an
intent can be undone; one without comes from the history. Answers whether there was anything to
do. -/
def edit (s : Session) (span : Span) (text : List Char) (intent? : Option Intent)
    (cursor? : Option Nat) : Session × Bool :=
  let span := span.clamp s.buffer.length
  if span.isEmpty && text.isEmpty then (s, false)
  else
    let buffer := s.buffer.replace span text
    let bytes : Span := ⟨s.buffer.byteOffset span.start, s.buffer.byteOffset span.stop⟩
    let selection := Selection.place (cursor?.getD (span.start + text.length)) buffer.length
    let history :=
      match intent? with
      | none => s.history
      | some intent =>
        s.history.record
          { start := span.start
            deleted := s.buffer.slice span
            inserted := text
            intent := intent
            cursorBefore := s.cursor
            cursorAfter := selection.cursor
            time := s.clock }
    let s :=
      { s with
        phase := .mutating
        buffer := buffer
        display := s.display.replace bytes text s.base
        selection := selection
        history := history }
    (s.rehighlight.announceText.announceSelection, true)

/-- Puts the glyph in place of the characters before the cursor that stand for one. -/
def substitute (s : Session) : Session :=
  if s.smartSubstitution then
    match Substitution.find? (s.buffer.slice ⟨s.cursor - Substitution.reach, s.cursor⟩) with
    | none => s
    | some found =>
      let start := s.cursor - found.size
      (s.edit ⟨start, s.cursor⟩ [found.glyph] (some .substitution) (some (start + 1))).1
  else s

/-- An edit after which operators are substituted. -/
def editSmartly (s : Session) (span : Span) (text : List Char) (intent : Intent) :
    Session × Bool :=
  match s.edit span text (some intent) none with
  | (s, true) => (s.substitute, true)
  | (s, false) => (s, false)

def replaceRange (s : Session) (span : Span) (text : List Char) : Session × Bool :=
  s.editSmartly span text .other

/-- Puts a text in place of the selection. -/
def insertText (s : Session) (text : List Char) : Session × Bool :=
  s.editSmartly s.selection.editSpan text .insert

/-- Starts a new line, indented after the one before it. The indentation is an edit of its own. -/
def insertNewline (s : Session) : Session × Bool :=
  match s.edit s.selection.editSpan ['\n'] (some .newline) none with
  | (s, false) => (s, false)
  | (s, true) =>
    let indent := Indent.after (s.buffer.lineText (s.lineColumn.1 - 1))
    if indent.isEmpty then (s, true)
    else ((s.edit (.point s.cursor) indent (some .autoIndent) none).1, true)

/-- Inserts as many blanks as a tab is wide, but at least one. -/
def insertTab (s : Session) : Session × Bool :=
  s.edit s.selection.editSpan (List.replicate (max s.options.tabWidth.toNat 1) ' ')
    (some .insert) none

/-- Deletes the selection, or the character before the cursor. -/
def backspace (s : Session) : Session × Bool :=
  match s.selection.span? with
  | some span => s.edit span [] (some .deleteBackward) none
  | none =>
    if s.cursor = 0 then (s, false)
    else s.edit ⟨s.cursor - 1, s.cursor⟩ [] (some .deleteBackward) none

/-- Deletes the selection, or the character after the cursor. -/
def deleteForward (s : Session) : Session × Bool :=
  match s.selection.span? with
  | some span => s.edit span [] (some .deleteForward) none
  | none =>
    if s.buffer.length ≤ s.cursor then (s, false)
    else s.edit ⟨s.cursor, s.cursor + 1⟩ [] (some .deleteForward) none

def applyStep (s : Session) : Option (History × Replacement) → Session × Bool
  | none => (s, false)
  | some (history, r) => { s with history := history }.edit r.span r.text none (some r.cursor)

def undo (s : Session) : Session × Bool := s.applyStep s.history.undo?

def redo (s : Session) : Session × Bool := s.applyStep s.history.redo?

/-! ## Files -/

def openFile (s : Session) (file : Path) : Except Disk.Cause Session := do
  return s.setText (← s.disk.readText file)

def saveFile (s : Session) (file : Path) : Except Disk.Cause Session := do
  return { s with disk := ← s.disk.write file (Text.Utf8.encode s.text) }

/-! ## The view -/

/-- Scrolls to a position, and answers whether it is another one. -/
def scrollTo (s : Session) (position : Nat) : Session × Bool :=
  let position := min position s.buffer.length
  if position = s.firstVisible then (s, false)
  else ({ s with firstVisible := position }.announce (.scrollChanged position), true)

/-- The rows of the gutter; none when there are too many to have room for. -/
def gutterRows? (s : Session) (rows : Nat) (wrap : Option Nat) :
    Option (Session × List GutterRow) :=
  (s.gutter.layout? s.buffer ⟨s.firstVisible, rows, wrap⟩).map fun (gutter, rows) =>
    ({ s with gutter := gutter }, rows)

/-! ## Theme, grammar and settings -/

/-- Changes to another theme, if it can be loaded. -/
def selectTheme (s : Session) (name : String) : Session × Bool :=
  match s.library.load s.disk .theme name with
  | (_, _, none) => (s, false)
  | (library, disk, some theme) =>
    let s :=
      { s with
        library := library
        disk := disk
        theme := theme
        base := s.options.base theme
        colors := .ofGrammar theme s.grammar }
    (s.rehighlight.announce (.themeChanged theme.name), true)

/-- Changes to another grammar, unless it is the current one or cannot be loaded. -/
def selectGrammar (s : Session) (name : String) : Session × Bool :=
  if s.library.isCurrent .grammar name then (s, false)
  else
    match s.library.load s.disk .grammar name with
    | (_, _, none) => (s, false)
    | (library, disk, some grammar) =>
      let s :=
        { s with
          library := library
          disk := disk
          grammar := grammar
          colors := .ofGrammar s.theme grammar }
      (s.rehighlight.announce (.grammarChanged grammar.name), true)

/-- Says whether typed operators are substituted, and keeps that in the settings. -/
def setSmartSubstitution (s : Session) (enabled : Bool) : Session :=
  let (settings, disk) := s.library.settings.setBool s.disk smartSubstitutionSetting enabled
  { s with
    smartSubstitution := enabled
    library := { s.library with settings := settings }
    disk := disk }

/-! ## Commands -/

/-- Where the cursor goes to the left: to the start of a selection that it leaves. -/
def leftTarget (s : Session) (select : Bool) : Nat :=
  match s.selection.span?, select with
  | some span, false => span.start
  | _, _ => s.cursor - 1

/-- Where the cursor goes to the right: to the end of a selection that it leaves. -/
def rightTarget (s : Session) (select : Bool) : Nat :=
  match s.selection.span?, select with
  | some span, false => span.stop
  | _, _ => s.cursor + 1

/-- Carries out a command, and answers whether it did anything. -/
def execute (s : Session) : Command → Session × Bool
  | .insertText text => s.insertText text
  | .insertNewline => s.insertNewline
  | .insertTab => s.insertTab
  | .backspace => s.backspace
  | .deleteForward => s.deleteForward
  | .moveLeft select => (s.moveCursor (s.leftTarget select) select, true)
  | .moveRight select => (s.moveCursor (s.rightTarget select) select, true)
  | .moveLineStart select => (s.moveCursor (s.buffer.positionOf s.lineColumn.1 0) select, true)
  | .moveLineEnd select =>
    let line := s.lineColumn.1
    (s.moveCursor (s.buffer.positionOf line (s.buffer.lineLength line)) select, true)
  | .selectAll => (s.selectAll, true)
  | .undo => s.undo
  | .redo => s.redo
  | .selectTheme name => s.selectTheme name
  | .selectGrammar name => s.selectGrammar name
  | .setSmartSubstitution enabled =>
    (s.setSmartSubstitution enabled, s.smartSubstitution != enabled)
  | .toggleSmartSubstitution => (s.setSmartSubstitution !s.smartSubstitution, true)
  | .scrollTo position => s.scrollTo position

/-- Carries out the command for what the user does, if there is one. -/
def handle (s : Session) (e : UserEvent) : Session × Bool :=
  match s.bindings.resolve e with
  | none => (s, false)
  | some command => s.execute command

end Session

end CodeEditor
