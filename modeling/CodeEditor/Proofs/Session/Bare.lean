import CodeEditor.Proofs.Session.Action

/-! # Sessions but for their histories

Nothing but undo and redo looks into the history of a session. Two sessions that differ only in what is
kept there, and in whether edits are joined, stay so as long as neither of these is called.
-/

namespace CodeEditor.Session

/-- The session but for what the history holds and for whether edits are joined. -/
def bare (s : Session) : Session :=
  { s with history := .new false, options := { s.options with joinTyping := false } }

/-- A part that does not go through the history. -/
def Part.isForward : Part → Bool
  | .undo => false
  | .redo => false
  | _ => true

variable {s s' : Session}

@[simp] theorem buffer_bare (s : Session) : s.bare.buffer = s.buffer := rfl

@[simp] theorem text_bare (s : Session) : s.bare.text = s.text := rfl

@[simp] theorem library_bare (s : Session) : s.bare.library = s.library := rfl

@[simp] theorem disk_bare (s : Session) : s.bare.disk = s.disk := rfl

@[simp] theorem bindings_bare (s : Session) : s.bare.bindings = s.bindings := rfl

@[simp] theorem gutter_bare (s : Session) : s.bare.gutter = s.gutter := rfl

@[simp] theorem firstVisible_bare (s : Session) : s.bare.firstVisible = s.firstVisible := rfl

/-! ## One part -/

theorem congr_bare {f : Session → Session} (hf : ∀ s, (f s.bare).bare = (f s).bare)
    (h : s.bare = s'.bare) : (f s).bare = (f s').bare := by
  rw [← hf s, h, hf s']

theorem rehighlight_congr (h : s.bare = s'.bare) : s.rehighlight.bare = s'.rehighlight.bare := by
  have hbare : ∀ s : Session, s.bare.rehighlight.bare = s.rehighlight.bare := fun _ => rfl
  exact congr_bare hbare h

theorem announce_congr (h : s.bare = s'.bare) (e : Event) :
    (s.announce e).bare = (s'.announce e).bare := by
  have hbare : ∀ s : Session, (s.bare.announce e).bare = (s.announce e).bare := fun _ => rfl
  exact congr_bare (f := (·.announce e)) hbare h

theorem settle_congr (h : s.bare = s'.bare) :
    s.rehighlight.announceText.announceSelection.bare =
      s'.rehighlight.announceText.announceSelection.bare := by
  have hbare : ∀ s : Session, s.bare.announceText.announceSelection.bare =
      s.announceText.announceSelection.bare := fun _ => rfl
  exact congr_bare (f := (·.announceText.announceSelection)) hbare (rehighlight_congr h)

theorem bare_edit (s : Session) (span : Span) (text : List Char) (intent? : Option Intent)
    (cursor? : Option Nat) :
    (s.bare.edit span text intent? cursor?).1.bare = (s.edit span text intent? cursor?).1.bare ∧
      (s.bare.edit span text intent? cursor?).2 = (s.edit span text intent? cursor?).2 := by
  unfold edit
  -- The test is about the buffers, which are the same, but not as terms.
  by_cases hnothing : ((span.clamp s.buffer.length).isEmpty && text.isEmpty) = true
  · have hbare : ((span.clamp s.bare.buffer.length).isEmpty && text.isEmpty) = true := hnothing
    simp only [hbare, hnothing, if_true]
    exact ⟨rfl, trivial⟩
  · have hbare : ¬ ((span.clamp s.bare.buffer.length).isEmpty && text.isEmpty) = true := hnothing
    simp only [hbare, hnothing]
    exact ⟨settle_congr rfl, rfl⟩

theorem bare_setText (s : Session) (text : List Char) :
    (s.bare.setText text).bare = (s.setText text).bare := settle_congr rfl

theorem bare_stepAside (s : Session) (call : Aside) :
    (s.bare.stepAside call).bare = (s.stepAside call).bare := by
  cases call with
  | scrollTo position =>
    unfold stepAside scrollTo
    simp only
    by_cases hsame : min position s.buffer.length = s.firstVisible
    · have hbare : min position s.bare.buffer.length = s.bare.firstVisible := hsame
      rw [if_pos hbare, if_pos hsame]
      rfl
    · have hbare : min position s.bare.buffer.length ≠ s.bare.firstVisible := hsame
      rw [if_neg hbare, if_neg hsame]
      rfl
  | gutterRows rows wrap =>
    unfold stepAside gutterRows?
    simp only [buffer_bare, gutter_bare, firstVisible_bare]
    cases s.gutter.layout? s.buffer ⟨s.firstVisible, rows, wrap⟩ <;> rfl
  | saveFile file =>
    unfold stepAside saveFile
    simp only [disk_bare, text_bare]
    cases s.disk.write file (Text.Utf8.encode s.text) <;> rfl
  | selectTheme name =>
    unfold stepAside selectTheme
    simp only [library_bare, disk_bare]
    split
    · rfl
    · exact announce_congr (rehighlight_congr rfl) _
  | selectGrammar name =>
    unfold stepAside selectGrammar
    simp only
    by_cases hcurrent : s.library.isCurrent .grammar name = true
    · have hbare : s.bare.library.isCurrent .grammar name = true := hcurrent
      rw [if_pos hbare, if_pos hcurrent]
      rfl
    · have hbare : ¬ s.bare.library.isCurrent .grammar name = true := hcurrent
      rw [if_neg hbare, if_neg hcurrent]
      simp only [library_bare, disk_bare]
      split
      · rfl
      · exact announce_congr (rehighlight_congr rfl) _
  | _ => rfl

theorem bare_step {part : Part} (forward : part.isForward = true) (s : Session) :
    (s.bare.step part).bare = (s.step part).bare := by
  cases part with
  | edit span text intent cursor? => exact (s.bare_edit span text _ cursor?).1
  | setText text => exact s.bare_setText text
  | aside call => exact s.bare_stepAside call
  | undo => cases forward
  | redo => cases forward

theorem step_congr {part : Part} (forward : part.isForward = true) (h : s.bare = s'.bare) :
    (s.step part).bare = (s'.step part).bare := congr_bare (f := (·.step part)) (bare_step forward) h

/-! ## The parts of an action -/

/-- What follows an edit that has changed the text. -/
def partsAfter (next : Session → List Part) : Session × Bool → List Part
  | (s, true) => next s
  | (_, false) => []

theorem partsAfter_bare (next : Session → List Part) (hnext : ∀ s, next s.bare = next s)
    (s : Session) (span : Span) (text : List Char) (intent : Intent) :
    partsAfter next (s.bare.edit span text (some intent) none) =
      partsAfter next (s.edit span text (some intent) none) := by
  obtain ⟨hedited, hchanged⟩ := s.bare_edit span text (some intent) none
  generalize s.bare.edit span text (some intent) none = r' at hedited hchanged ⊢
  generalize s.edit span text (some intent) none = r at hedited hchanged ⊢
  obtain ⟨edited', changed⟩ := r'
  obtain ⟨edited, _⟩ := r
  cases hchanged
  cases changed with
  | false => rfl
  | true =>
    show next edited' = next edited
    rw [← hnext edited', ← hnext edited]
    exact congrArg next hedited

theorem smartParts_bare (s : Session) (span : Span) (text : List Char) (intent : Intent) :
    s.bare.smartParts span text intent = s.smartParts span text intent :=
  congrArg _ (partsAfter_bare substituteParts (fun _ => rfl) s span text intent)

/-- The indentation of a new line. -/
def indentParts (s : Session) : List Part :=
  let indent := Indent.after (s.buffer.lineText (s.lineColumn.1 - 1))
  if indent.isEmpty then [] else [.edit (.point s.cursor) indent .autoIndent none]

theorem newlineParts_bare (s : Session) : s.bare.newlineParts = s.newlineParts := by
  have hparts : ∀ s : Session, s.newlineParts =
      .edit s.selection.editSpan ['\n'] .newline none ::
        partsAfter indentParts (s.edit s.selection.editSpan ['\n'] (some .newline) none) := by
    intro s
    unfold newlineParts
    rcases s.edit s.selection.editSpan ['\n'] (some .newline) none with ⟨edited, changed⟩
    cases changed <;> rfl
  rw [hparts, hparts]
  exact congrArg _ (partsAfter_bare indentParts (fun _ => rfl) s _ _ _)

theorem commandParts_bare (s : Session) (command : Command) :
    s.bare.commandParts command = s.commandParts command := by
  cases command with
  | insertText text => exact s.smartParts_bare _ text .insert
  | insertNewline => exact s.newlineParts_bare
  | _ => rfl

theorem parts_bare (s : Session) (action : Action) : s.bare.parts action = s.parts action := by
  cases action with
  | replaceRange span text => exact s.smartParts_bare span text .other
  | execute command => exact s.commandParts_bare command
  | handle event =>
    unfold parts
    simp only [bindings_bare]
    split
    · rfl
    · exact s.commandParts_bare _
  | _ => rfl

/-! ## All parts of some actions -/

theorem steps_congr (h : s.bare = s'.bare) {parts : List Part}
    (forward : ∀ part ∈ parts, part.isForward = true) :
    (s.steps parts).bare = (s'.steps parts).bare := by
  induction parts generalizing s s' with
  | nil => exact h
  | cons part parts ih =>
    obtain ⟨hpart, hparts⟩ := List.forall_mem_cons.mp forward
    exact ih (step_congr hpart h) hparts

theorem allParts_congr (h : s.bare = s'.bare) {actions : List Action}
    (forward : ∀ part ∈ s.allParts actions, part.isForward = true) :
    s.allParts actions = s'.allParts actions := by
  induction actions generalizing s s' with
  | nil => rfl
  | cons action actions ih =>
    have hparts : s.parts action = s'.parts action := by
      rw [← parts_bare s, h, parts_bare s']
    rw [allParts] at forward
    obtain ⟨hhere, hlater⟩ := List.forall_mem_append.mp forward
    have hnext : (s.perform action).bare = (s'.perform action).bare := by
      rw [← steps_parts, ← steps_parts, ← hparts]
      exact steps_congr h hhere
    rw [allParts, allParts, hparts, ih hnext hlater]

end CodeEditor.Session
