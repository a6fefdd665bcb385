import CodeEditor.Proofs.Session.Equipment
import CodeEditor.Proofs.Session.Settled
import CodeEditor.Proofs.Settings

/-! # Refused requests

A request is a command, something that the user does, or a file to open. One that is refused leaves
the whole session as it was, the history and the listeners included. Only the value of the toggle is
written once more when it is asked for again.
-/

namespace CodeEditor

namespace Session

/-! ## Requests -/

inductive Request where
  | execute (command : Command)
  | handle (event : UserEvent)
  | openFile (file : Path)

def Request.action : Request → Action
  | .execute command => .execute command
  | .handle event => .handle event
  | .openFile file => .openFile file

/-- What is answered to a request. -/
def accepts (s : Session) : Request → Bool
  | .execute command => (s.execute command).2
  | .handle event => (s.handle event).2
  | .openFile file => (s.openFile file).isOk

/-- The command that a request comes to. -/
def commandOf? (s : Session) : Request → Option Command
  | .execute command => some command
  | .handle event => s.bindings.resolve event
  | .openFile _ => none

/-- The value of the toggle has been written once more. -/
structure Rewritten (s after : Session) : Prop where
  session : { after with library := s.library, disk := s.disk } = s
  directories : after.library.directories = s.library.directories
  loaded : after.library.loaded = s.library.loaded
  file : after.library.settings.file = s.library.settings.file
  toggle : after.library.settings.bool? smartSubstitutionSetting = some s.smartSubstitution
  others : ∀ name, name ≠ smartSubstitutionSetting →
    after.library.settings.values.find? name = s.library.settings.values.find? name
  disk : after.disk = after.library.settings.save s.disk

variable {options : EditorOptions} {s : Session}

/-! ## What each of them leaves -/

theorem edit_refused {span : Span} {text : List Char} {intent? : Option Intent}
    {cursor? : Option Nat} (refused : (s.edit span text intent? cursor?).2 = false) :
    (s.edit span text intent? cursor?).1 = s := by
  cases hnothing : (span.clamp s.buffer.length).isEmpty && text.isEmpty with
  | true => rw [edit_unchanged hnothing]
  | false =>
    have haccepted := (edit_changed intent? cursor? hnothing).1
    rw [haccepted] at refused
    cases refused

theorem editSmartly_refused {span : Span} {text : List Char} {intent : Intent}
    (refused : (s.editSmartly span text intent).2 = false) :
    (s.editSmartly span text intent).1 = s := by
  unfold editSmartly at refused ⊢
  have hedit : (s.edit span text (some intent) none).2 = false → _ = s := edit_refused
  generalize s.edit span text (some intent) none = r at refused hedit ⊢
  obtain ⟨edited, changed⟩ := r
  cases changed with
  | true => cases refused
  | false => exact hedit rfl

theorem insertText_refused {text : List Char} (refused : (s.insertText text).2 = false) :
    (s.insertText text).1 = s := by
  unfold insertText at refused ⊢
  exact editSmartly_refused refused

theorem insertNewline_accepted (s : Session) : s.insertNewline.2 = true := by
  have hchanged : (s.edit s.selection.editSpan ['\n'] (some .newline) none).2 = true :=
    (edit_changed (some .newline) none (by rw [Bool.and_eq_false_iff]; exact .inr rfl)).1
  unfold insertNewline
  generalize s.edit s.selection.editSpan ['\n'] (some .newline) none = r at hchanged ⊢
  obtain ⟨edited, changed⟩ := r
  cases hchanged
  simp only
  split <;> rfl

theorem insertTab_refused (refused : s.insertTab.2 = false) : s.insertTab.1 = s := by
  unfold insertTab at refused ⊢
  exact edit_refused refused

theorem backspace_refused (refused : s.backspace.2 = false) : s.backspace.1 = s := by
  unfold backspace at refused ⊢
  cases hspan : s.selection.span? with
  | some span =>
    rw [hspan] at refused
    exact edit_refused refused
  | none =>
    simp only [hspan] at refused ⊢
    split
    · rfl
    · next behind =>
      rw [if_neg behind] at refused
      exact edit_refused refused

theorem deleteForward_refused (refused : s.deleteForward.2 = false) : s.deleteForward.1 = s := by
  unfold deleteForward at refused ⊢
  cases hspan : s.selection.span? with
  | some span =>
    rw [hspan] at refused
    exact edit_refused refused
  | none =>
    simp only [hspan] at refused ⊢
    split
    · rfl
    · next before =>
      rw [if_neg before] at refused
      exact edit_refused refused

theorem applyStep_refused {step? : Option (History × Replacement)}
    (leads : ∀ step, step? = some step → ∃ t, step.2.Leads s.buffer.text t)
    (refused : (s.applyStep step?).2 = false) : (s.applyStep step?).1 = s := by
  cases step? with
  | none => rfl
  | some step =>
    obtain ⟨t, ht⟩ := leads step rfl
    have haccepted := (applyStep_leads (h := step.1) ht).1
    rw [haccepted] at refused
    cases refused

theorem Linked.undo_leads {r : Snapshots} (h : s.Linked r) {step : History × Replacement}
    (hstep : s.history.undo? = some step) : ∃ t, step.2.Leads s.buffer.text t := by
  obtain ⟨joining, past, future⟩ := r
  have hpast := h.past
  cases hdone : s.history.done with
  | nil =>
    rw [History.undo?, hdone] at hstep
    cases hstep
  | cons e es =>
    rw [hdone] at hpast
    obtain _ | @⟨_, p, _, ps, _, links, here, rest⟩ := hpast
    have leads := Edit.leads_backward links.toLinks
    rw [show p.after.text = s.buffer.text from here] at leads
    rw [History.undo?_cons hdone] at hstep
    cases hstep
    exact ⟨_, leads⟩

theorem Linked.redo_leads {r : Snapshots} (h : s.Linked r) {step : History × Replacement}
    (hstep : s.history.redo? = some step) : ∃ t, step.2.Leads s.buffer.text t := by
  obtain ⟨joining, past, future⟩ := r
  have hfuture := h.future
  cases hundone : s.history.undone with
  | nil =>
    rw [History.redo?, hundone] at hstep
    cases hstep
  | cons e es =>
    rw [hundone] at hfuture
    obtain _ | @⟨_, p, _, ps, _, links, here, rest⟩ := hfuture
    have leads := Edit.leads_forward links.toLinks
    rw [show p.before.text = s.buffer.text from here] at leads
    rw [History.redo?_cons h.bounded hundone] at hstep
    cases hstep
    exact ⟨_, leads⟩

theorem undo_refused (h : s.Settled options) (refused : s.undo.2 = false) : s.undo.1 = s := by
  obtain ⟨r, hlinked⟩ := h.linked
  unfold undo at refused ⊢
  exact applyStep_refused (fun step hstep => hlinked.undo_leads hstep) refused

theorem redo_refused (h : s.Settled options) (refused : s.redo.2 = false) : s.redo.1 = s := by
  obtain ⟨r, hlinked⟩ := h.linked
  unfold redo at refused ⊢
  exact applyStep_refused (fun step hstep => hlinked.redo_leads hstep) refused

theorem scrollTo_refused {position : Nat} (refused : (s.scrollTo position).2 = false) :
    (s.scrollTo position).1 = s := by
  unfold scrollTo at refused ⊢
  simp only at refused ⊢
  split
  · rfl
  · next moves =>
    rw [if_neg moves] at refused
    cases refused

theorem selectTheme_refused {name : String} (refused : (s.selectTheme name).2 = false) :
    (s.selectTheme name).1 = s ∧
      s.library.load s.disk .theme name = (s.library, s.disk, none) := by
  obtain ⟨_, _, _, _, accepted, _⟩ | ⟨unknown, same⟩ := s.selectTheme_cases name
  · rw [accepted] at refused
    cases refused
  · rw [same]
    exact ⟨rfl, Library.load_of_not_standsFor unknown⟩

theorem selectGrammar_refused {name : String} (refused : (s.selectGrammar name).2 = false) :
    (s.selectGrammar name).1 = s ∧
      (s.library.isCurrent .grammar name = true ∨
        s.library.load s.disk .grammar name = (s.library, s.disk, none)) := by
  obtain ⟨_, _, _, _, _, accepted, _⟩ | ⟨reason, same⟩ := s.selectGrammar_cases name
  · rw [accepted] at refused
    cases refused
  · rw [same]
    exact ⟨rfl, reason.imp_right Library.load_of_not_standsFor⟩

theorem rewritten_setSmartSubstitution (s : Session) :
    s.Rewritten (s.setSmartSubstitution s.smartSubstitution) := by
  refine ⟨rfl, rfl, rfl, rfl, s.library.settings.bool?_setBool s.disk _ _, ?_, rfl⟩
  intro name other
  exact (s.library.settings.find?_set s.disk _ _ name).trans (if_neg (Ne.symm other))

/-! ## Every request -/

theorem execute_refused (h : s.Settled options) {command : Command}
    (refused : (s.execute command).2 = false) :
    (s.execute command).1 = s ∨ command = .setSmartSubstitution s.smartSubstitution := by
  cases command <;> simp only [execute] at refused ⊢
  case insertText text => exact .inl (insertText_refused refused)
  case insertNewline =>
    rw [s.insertNewline_accepted] at refused
    cases refused
  case insertTab => exact .inl (insertTab_refused refused)
  case backspace => exact .inl (backspace_refused refused)
  case deleteForward => exact .inl (deleteForward_refused refused)
  case undo => exact .inl (undo_refused h refused)
  case redo => exact .inl (redo_refused h refused)
  case selectTheme name => exact .inl (selectTheme_refused refused).1
  case selectGrammar name => exact .inl (selectGrammar_refused refused).1
  case setSmartSubstitution enabled =>
    right
    rw [bne_eq_false_iff_eq.mp refused]
  case scrollTo position => exact .inl (scrollTo_refused refused)
  all_goals cases refused

/-- What a refused request leaves, given the command that it comes to: the whole session, unless it
asks for the toggle as it is. A theme or grammar that is refused has not been loaded, or is the
current one. -/
structure Leaves (s : Session) (command? : Option Command) (after : Session) : Prop where
  session :
    if command? = some (.setSmartSubstitution s.smartSubstitution) then s.Rewritten after
    else after = s
  theme : ∀ name, command? = some (.selectTheme name) →
    s.library.load s.disk .theme name = (s.library, s.disk, none)
  grammar : ∀ name, command? = some (.selectGrammar name) →
    s.library.isCurrent .grammar name = true ∨
      s.library.load s.disk .grammar name = (s.library, s.disk, none)

theorem leaves_of_no_command (s : Session) : s.Leaves none s := by
  constructor
  · rw [if_neg nofun]
  · nofun
  · nofun

theorem leaves_execute (h : s.Settled options) {command : Command}
    (refused : (s.execute command).2 = false) : s.Leaves (some command) (s.execute command).1 := by
  constructor
  · split
    · next same =>
      cases same
      simp only [execute]
      exact s.rewritten_setSmartSubstitution
    · next other =>
      refine (execute_refused h refused).resolve_right ?_
      rintro rfl
      exact other rfl
  · rintro name ⟨⟩
    simp only [execute] at refused
    exact (selectTheme_refused refused).2
  · rintro name ⟨⟩
    simp only [execute] at refused
    exact (selectGrammar_refused refused).2

theorem leaves_perform (h : s.Settled options) {request : Request}
    (refused : s.accepts request = false) :
    s.Leaves (s.commandOf? request) (s.perform request.action) := by
  cases request with
  | execute command => exact leaves_execute h refused
  | handle event =>
    change (s.handle event).2 = false at refused
    show s.Leaves (s.bindings.resolve event) (s.handle event).1
    unfold handle at refused ⊢
    cases hresolve : s.bindings.resolve event with
    | none => exact s.leaves_of_no_command
    | some command =>
      rw [hresolve] at refused
      exact leaves_execute h refused
  | openFile file =>
    change (s.openFile file).isOk = false at refused
    show s.Leaves none ((s.openFile file).toOption.getD s)
    cases hopen : s.openFile file with
    | ok opened =>
      rw [hopen] at refused
      cases refused
    | error cause => exact s.leaves_of_no_command

/-- After any actions a request that is refused changes nothing: no field of the session, nothing that
the listeners have been told, no setting and no file. Only a request for the toggle as it is has its
value written once more. -/
theorem refused_request_changes_nothing (library : Library) (disk : Disk) (options : EditorOptions)
    (actions : List Action) (request : Request) :
    let s := (start library disk options).run actions
    s.accepts request = false →
      s.Leaves (s.commandOf? request) (s.perform request.action) := by
  intro s refused
  exact leaves_perform (settled_run library disk options actions) refused

theorem refused_request_changes_nothing_redo :
    let s := (start default default .standard).run
      [.execute (.insertText ['a']), .execute .undo, .execute (.insertText ['b'])]
    s.accepts (.handle (.key (.withCommand (.char 'y')))) = false ∧
      (s.handle (.key (.withCommand (.char 'y')))).1 = s := by
  intro s
  have refused : s.accepts (.handle (.key (.withCommand (.char 'y')))) = false := by decide
  refine ⟨refused, ?_⟩
  have hleaves := refused_request_changes_nothing default default .standard
    [.execute (.insertText ['a']), .execute .undo, .execute (.insertText ['b'])]
    (.handle (.key (.withCommand (.char 'y')))) refused
  have hsession := hleaves.session
  rw [if_neg (by decide)] at hsession
  exact hsession

end Session

end CodeEditor
