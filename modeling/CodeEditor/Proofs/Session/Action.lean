import CodeEditor.Session
import Mathlib.Data.List.Induction

/-! # What can be done to a session

An action is a call from outside. It is taken apart into parts, each of which changes the text once at
the most: what holds at the start and is kept by every part holds after any actions.
-/

namespace CodeEditor.Session

/-! ## Parts -/

/-- A call that leaves the text and its history alone. -/
inductive Aside where
  | setCursor (position : Nat)
  | moveCursor (position : Nat) (select : Bool)
  | select (span : Span)
  | scrollTo (position : Nat)
  | gutterRows (rows : Nat) (wrap : Option Nat)
  | saveFile (file : Path)
  | selectTheme (name : String)
  | selectGrammar (name : String)
  | setSmartSubstitution (enabled : Bool)
  | rebind (bindings : Bindings)
  | subscribe
  | unsubscribe (subscription : Subscription)
  /-- The clock comes to show another time, which may be an earlier one. -/
  | tick (time : Nat)
  /-- Somebody else changes files and settings. -/
  | outside (library : Library) (disk : Disk)

def stepAside (s : Session) : Aside → Session
  | .setCursor position => s.setCursor position
  | .moveCursor position select => s.moveCursor position select
  | .select span => s.select span
  | .scrollTo position => (s.scrollTo position).1
  | .gutterRows rows wrap => ((s.gutterRows? rows wrap).map (·.1)).getD s
  | .saveFile file => (s.saveFile file).toOption.getD s
  | .selectTheme name => (s.selectTheme name).1
  | .selectGrammar name => (s.selectGrammar name).1
  | .setSmartSubstitution enabled => s.setSmartSubstitution enabled
  | .rebind bindings => { s with bindings := bindings }
  | .subscribe => s.subscribe.1
  | .unsubscribe subscription => (s.unsubscribe subscription).1
  | .tick time => { s with clock := time }
  | .outside library disk => { s with library := library, disk := disk }

inductive Part where
  | edit (span : Span) (text : List Char) (intent : Intent) (cursor? : Option Nat)
  | undo
  | redo
  | setText (text : List Char)
  | aside (call : Aside)

def step (s : Session) : Part → Session
  | .edit span text intent cursor? => (s.edit span text (some intent) cursor?).1
  | .undo => s.undo.1
  | .redo => s.redo.1
  | .setText text => s.setText text
  | .aside call => s.stepAside call

def steps (s : Session) (parts : List Part) : Session := parts.foldl step s

theorem steps_cons (s : Session) (part : Part) (parts : List Part) :
    s.steps (part :: parts) = (s.step part).steps parts := rfl

theorem steps_append (s : Session) (parts more : List Part) :
    s.steps (parts ++ more) = (s.steps parts).steps more := List.foldl_append

/-! ## Actions -/

/-- A call from outside. Calls that do what a command does are among the commands. -/
inductive Action where
  | setText (text : List Char)
  | openFile (file : Path)
  | replaceRange (span : Span) (text : List Char)
  | execute (command : Command)
  | handle (event : UserEvent)
  | aside (call : Aside)

def perform (s : Session) : Action → Session
  | .setText text => s.setText text
  | .openFile file => (s.openFile file).toOption.getD s
  | .replaceRange span text => (s.replaceRange span text).1
  | .execute command => (s.execute command).1
  | .handle event => (s.handle event).1
  | .aside call => s.stepAside call

def run (s : Session) (actions : List Action) : Session := actions.foldl perform s

/-! ## The parts of an action -/

/-- The substitution before the cursor, if there is one to make. -/
def substituteParts (s : Session) : List Part :=
  if s.smartSubstitution then
    match Substitution.find? (s.buffer.slice ⟨s.cursor - Substitution.reach, s.cursor⟩) with
    | none => []
    | some found =>
      let start := s.cursor - found.size
      [.edit ⟨start, s.cursor⟩ [found.glyph] .substitution (some (start + 1))]
  else []

/-- An edit, and the substitution that it leads to. -/
def smartParts (s : Session) (span : Span) (text : List Char) (intent : Intent) : List Part :=
  .edit span text intent none ::
    match s.edit span text (some intent) none with
    | (s, true) => s.substituteParts
    | (_, false) => []

/-- A new line, and its indentation. -/
def newlineParts (s : Session) : List Part :=
  .edit s.selection.editSpan ['\n'] .newline none ::
    match s.edit s.selection.editSpan ['\n'] (some .newline) none with
    | (_, false) => []
    | (s, true) =>
      let indent := Indent.after (s.buffer.lineText (s.lineColumn.1 - 1))
      if indent.isEmpty then [] else [.edit (.point s.cursor) indent .autoIndent none]

def backspaceParts (s : Session) : List Part :=
  match s.selection.span? with
  | some span => [.edit span [] .deleteBackward none]
  | none => if s.cursor = 0 then [] else [.edit ⟨s.cursor - 1, s.cursor⟩ [] .deleteBackward none]

def deleteForwardParts (s : Session) : List Part :=
  match s.selection.span? with
  | some span => [.edit span [] .deleteForward none]
  | none =>
    if s.buffer.length ≤ s.cursor then []
    else [.edit ⟨s.cursor, s.cursor + 1⟩ [] .deleteForward none]

def commandParts (s : Session) : Command → List Part
  | .insertText text => s.smartParts s.selection.editSpan text .insert
  | .insertNewline => s.newlineParts
  | .insertTab =>
    [.edit s.selection.editSpan (List.replicate (max s.options.tabWidth.toNat 1) ' ') .insert none]
  | .backspace => s.backspaceParts
  | .deleteForward => s.deleteForwardParts
  | .moveLeft select => [.aside (.moveCursor (s.leftTarget select) select)]
  | .moveRight select => [.aside (.moveCursor (s.rightTarget select) select)]
  | .moveLineStart select =>
    [.aside (.moveCursor (s.buffer.positionOf s.lineColumn.1 0) select)]
  | .moveLineEnd select =>
    let line := s.lineColumn.1
    [.aside (.moveCursor (s.buffer.positionOf line (s.buffer.lineLength line)) select)]
  | .selectAll => [.aside (.select ⟨0, s.buffer.length⟩)]
  | .undo => [.undo]
  | .redo => [.redo]
  | .selectTheme name => [.aside (.selectTheme name)]
  | .selectGrammar name => [.aside (.selectGrammar name)]
  | .setSmartSubstitution enabled => [.aside (.setSmartSubstitution enabled)]
  | .toggleSmartSubstitution => [.aside (.setSmartSubstitution !s.smartSubstitution)]
  | .scrollTo position => [.aside (.scrollTo position)]

def parts (s : Session) : Action → List Part
  | .setText text => [.setText text]
  | .openFile file =>
    match s.disk.readText file with
    | .ok text => [.setText text]
    | .error _ => []
  | .replaceRange span text => s.smartParts span text .other
  | .execute command => s.commandParts command
  | .handle event =>
    match s.bindings.resolve event with
    | none => []
    | some command => s.commandParts command
  | .aside call => [.aside call]

theorem steps_substituteParts (s : Session) : s.steps s.substituteParts = s.substitute := by
  rw [substituteParts, substitute]
  split
  · cases Substitution.find? (s.buffer.slice ⟨s.cursor - Substitution.reach, s.cursor⟩) <;> rfl
  · rfl

theorem steps_smartParts (s : Session) (span : Span) (text : List Char) (intent : Intent) :
    s.steps (s.smartParts span text intent) = (s.editSmartly span text intent).1 := by
  rw [smartParts, editSmartly, steps, List.foldl_cons, step]
  rcases s.edit span text (some intent) none with ⟨edited, changed⟩
  cases changed
  · rfl
  · exact steps_substituteParts edited

theorem steps_newlineParts (s : Session) : s.steps s.newlineParts = s.insertNewline.1 := by
  rw [newlineParts, insertNewline, steps, List.foldl_cons, step]
  rcases s.edit s.selection.editSpan ['\n'] (some .newline) none with ⟨edited, changed⟩
  cases changed
  · rfl
  · simp only
    split <;> rfl

theorem steps_backspaceParts (s : Session) : s.steps s.backspaceParts = s.backspace.1 := by
  rw [backspaceParts, backspace]
  cases s.selection.span? with
  | some span => rfl
  | none => simp only; split <;> rfl

theorem steps_deleteForwardParts (s : Session) :
    s.steps s.deleteForwardParts = s.deleteForward.1 := by
  rw [deleteForwardParts, deleteForward]
  cases s.selection.span? with
  | some span => rfl
  | none => simp only; split <;> rfl

theorem steps_commandParts (s : Session) (command : Command) :
    s.steps (s.commandParts command) = (s.execute command).1 := by
  cases command with
  | insertText text => exact s.steps_smartParts s.selection.editSpan text .insert
  | insertNewline => exact s.steps_newlineParts
  | backspace => exact s.steps_backspaceParts
  | deleteForward => exact s.steps_deleteForwardParts
  | _ => rfl

/-- An action does what its parts do one after the other. -/
theorem steps_parts (s : Session) (action : Action) : s.steps (s.parts action) = s.perform action := by
  cases action with
  | setText text => rfl
  | openFile file =>
    rw [parts, perform, openFile]
    cases s.disk.readText file <;> rfl
  | replaceRange span text => exact s.steps_smartParts span text .other
  | execute command => exact s.steps_commandParts command
  | handle event =>
    rw [parts, perform, handle]
    cases s.bindings.resolve event with
    | none => rfl
    | some command => exact s.steps_commandParts command
  | aside call => rfl

/-- The parts of some actions, each action taken apart when its turn comes. -/
def allParts (s : Session) : List Action → List Part
  | [] => []
  | action :: actions => s.parts action ++ (s.perform action).allParts actions

theorem steps_allParts (s : Session) (actions : List Action) :
    s.steps (s.allParts actions) = s.run actions := by
  induction actions generalizing s with
  | nil => rfl
  | cons action actions ih =>
    rw [allParts, steps_append, steps_parts, ih]
    rfl

/-! ## Calls that no command carries out -/

/-- Whether commands consist of parts like this one. -/
def Part.isCommanded : Part → Bool
  | .aside (.moveCursor _ _) => true
  | .aside (.select _) => true
  | .aside (.scrollTo _) => true
  | .aside (.selectTheme _) => true
  | .aside (.selectGrammar _) => true
  | .aside (.setSmartSubstitution _) => true
  | .aside _ => false
  | _ => true

theorem all_smartParts (s : Session) (span : Span) (text : List Char) (intent : Intent) :
    (s.smartParts span text intent).all Part.isCommanded = true := by
  have hsubstitute : ∀ s : Session, s.substituteParts.all Part.isCommanded = true := by
    intro s
    unfold substituteParts
    split
    · split <;> rfl
    · rfl
  unfold smartParts
  rw [List.all_cons, Bool.and_eq_true]
  refine ⟨rfl, ?_⟩
  split
  · exact hsubstitute _
  · rfl

theorem all_newlineParts (s : Session) : s.newlineParts.all Part.isCommanded = true := by
  unfold newlineParts
  rw [List.all_cons, Bool.and_eq_true]
  refine ⟨rfl, ?_⟩
  split
  · rfl
  · simp only
    split <;> rfl

theorem all_backspaceParts (s : Session) : s.backspaceParts.all Part.isCommanded = true := by
  unfold backspaceParts
  split
  · rfl
  · split <;> rfl

theorem all_deleteForwardParts (s : Session) :
    s.deleteForwardParts.all Part.isCommanded = true := by
  unfold deleteForwardParts
  split
  · rfl
  · split <;> rfl

theorem all_commandParts (s : Session) (command : Command) :
    (s.commandParts command).all Part.isCommanded = true := by
  cases command with
  | insertText text => exact s.all_smartParts _ text .insert
  | insertNewline => exact s.all_newlineParts
  | backspace => exact s.all_backspaceParts
  | deleteForward => exact s.all_deleteForwardParts
  | _ => rfl

theorem eq_aside_of_mem_parts {s : Session} {action : Action} {call : Aside}
    (own : (Part.aside call).isCommanded = false) (h : .aside call ∈ s.parts action) :
    action = .aside call := by
  have hnot : ∀ parts : List Part, parts.all Part.isCommanded = true →
      Part.aside call ∈ parts → False := by
    intro parts hall hmem
    have := List.all_eq_true.mp hall _ hmem
    rw [own] at this
    cases this
  cases action with
  | setText text => exact (hnot _ rfl h).elim
  | openFile file =>
    rw [parts] at h
    split at h
    · exact (hnot _ rfl h).elim
    · cases h
  | replaceRange span text => exact (hnot _ (s.all_smartParts span text .other) h).elim
  | execute command => exact (hnot _ (s.all_commandParts command) h).elim
  | handle event =>
    rw [parts] at h
    split at h
    · cases h
    · exact (hnot _ (s.all_commandParts _) h).elim
  | aside other =>
    cases List.mem_singleton.mp h
    rfl

theorem not_mem_allParts {s : Session} {actions : List Action} {call : Aside}
    (own : (Part.aside call).isCommanded = false) (h : .aside call ∉ actions) :
    .aside call ∉ s.allParts actions := by
  induction actions generalizing s with
  | nil => exact List.not_mem_nil
  | cons action actions ih =>
    rw [List.mem_cons, not_or] at h
    rw [allParts, List.mem_append, not_or]
    refine ⟨?_, ih h.2⟩
    intro hmem
    exact h.1 (eq_aside_of_mem_parts own hmem).symm

/-! ## Runs -/

variable {P : Session → Prop}

theorem steps_induction (hstep : ∀ s part, P s → P (s.step part)) {s : Session} (h : P s)
    (parts : List Part) : P (s.steps parts) := by
  induction parts generalizing s with
  | nil => exact h
  | cons part parts ih => exact ih (hstep s part h)

theorem exists_last {s : Session} (h : P s) {parts : List Part} (ends : ¬ P (s.steps parts)) :
    ∃ done part todo, parts = done ++ part :: todo ∧ P (s.steps done) ∧
      ∀ early, early <+: todo → ¬ P (((s.steps done).step part).steps early) := by
  induction parts using List.reverseRecOn with
  | nil => exact absurd h ends
  | append_singleton parts last ih =>
    by_cases before : P (s.steps parts)
    · refine ⟨parts, last, [], rfl, before, ?_⟩
      intro early hearly
      rw [List.prefix_nil.mp hearly]
      rw [steps_append] at ends
      exact ends
    · obtain ⟨done, part, todo, rfl, hdone, hafter⟩ := ih before
      refine ⟨done, part, todo ++ [last], List.append_assoc _ _ _, hdone, ?_⟩
      intro early hearly
      rcases List.prefix_concat_iff.mp hearly with rfl | hearly
      · rw [List.append_assoc, steps_append] at ends
        exact ends
      · exact hafter early hearly

/-- What every part keeps, actions keep. -/
theorem run_induction (hstep : ∀ s part, P s → P (s.step part)) {s : Session} (h : P s)
    (actions : List Action) : P (s.run actions) := by
  rw [← steps_allParts]
  exact steps_induction hstep h _

end CodeEditor.Session
