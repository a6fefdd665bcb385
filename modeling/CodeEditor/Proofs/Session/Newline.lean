import CodeEditor.Proofs.Indent
import CodeEditor.Proofs.Lines.Joined
import CodeEditor.Proofs.Session.Refusal
import CodeEditor.Proofs.Session.Substitution

/-! # New lines

A new line takes the place of the selection and is indented after what stood before it in its line. The
indentation is an edit of its own: one undo takes it away, and another one brings back what was there
before. A feed that goes with a return before it opens no line.
-/

namespace CodeEditor

namespace Session

variable {options : EditorOptions} {s : Session}

/-! ## The two edits -/

/-- The line is broken, but not yet indented. -/
def broken (s : Session) : Session := (s.edit s.selection.editSpan ['\n'] (some .newline) none).1

/-- What the line that is started is indented by. -/
def newIndent (s : Session) : List Char :=
  Indent.after (s.broken.buffer.lineText (s.broken.lineColumn.1 - 1))

theorem edit_newline (s : Session) :
    s.edit s.selection.editSpan ['\n'] (some .newline) none = (s.broken, true) := by
  have hsomething : ((s.selection.editSpan.clamp s.buffer.length).isEmpty &&
      ['\n'].isEmpty) = false := Bool.and_false _
  have hdone := (edit_changed (some .newline) none hsomething).1
  rw [broken, ← hdone]

theorem insertNewline_eq (s : Session) :
    s.insertNewline =
      (if s.newIndent.isEmpty then s.broken
        else (s.broken.edit (.point s.broken.cursor) s.newIndent (some .autoIndent) none).1, true) := by
  unfold insertNewline
  rw [edit_newline]
  simp only
  rw [newIndent]
  split <;> rfl

theorem newlineParts_eq (s : Session) :
    s.newlineParts = .edit s.selection.editSpan ['\n'] .newline none ::
      if s.newIndent.isEmpty then []
      else [.edit (.point s.broken.cursor) s.newIndent .autoIndent none] := by
  unfold newlineParts
  rw [edit_newline]
  rfl

theorem broken_leadsTo (h : s.Settled options) :
    s.LeadsTo s.broken (s.upTo ['\n'] ++ s.following) (s.selection.editSpan.start + 1)
      (Text.byteLength (s.buffer.slice s.selection.editSpan) + 1) := by
  obtain ⟨ordered, within⟩ := editSpan_within h.within
  have something : ¬ (s.buffer.slice s.selection.editSpan = [] ∧ ['\n'] = []) := by simp
  have hleads := (edit_span_leadsTo h.within.cursor ordered within something .newline).2
  unfold upTo following
  rw [h.text_eq]
  exact hleads

theorem length_upTo_newline (h : s.Settled options) :
    (s.upTo ['\n']).length = s.selection.editSpan.start + 1 := by
  obtain ⟨ordered, within⟩ := editSpan_within h.within
  unfold upTo
  rw [h.text_eq]
  simp only [Buffer.length, List.length_append, List.length_take, List.length_singleton] at within ⊢
  omega

theorem indented_leadsTo (h : s.Settled options) (filled : s.newIndent ≠ []) :
    s.broken.LeadsTo s.insertNewline.1 (s.upTo ('\n' :: s.newIndent) ++ s.following)
      (s.selection.editSpan.start + 1 + s.newIndent.length) (Text.byteLength s.newIndent) := by
  have hbroken := broken_leadsTo h
  have hlength := length_upTo_newline h
  have htext : s.broken.buffer.text = s.upTo ['\n'] ++ [] ++ s.following := by
    rw [hbroken.shown, List.append_nil]
  have inside : s.broken.cursor ≤ s.broken.buffer.length := by
    rw [hbroken.placed, Buffer.length, hbroken.shown, List.length_append, hlength]
    exact Nat.le_add_right _ _
  have hedit : s.insertNewline.1 = (s.broken.edit ⟨(s.upTo ['\n']).length,
      (s.upTo ['\n']).length + ([] : List Char).length⟩ s.newIndent (some .autoIndent) none).1 := by
    have hfilled : s.newIndent.isEmpty = false := by simpa using filled
    rw [insertNewline_eq, hfilled, hlength, Span.point, hbroken.placed]
    rfl
  obtain ⟨-, hleads⟩ := edit_leadsTo inside htext (fun nothing => filled nothing.2) .autoIndent none
  rw [← hedit, hlength] at hleads
  convert hleads using 1
  · simp [upTo]
  · simp [hlength]
  · simp

theorem insertNewline_shown (h : s.Settled options) :
    s.insertNewline.1.buffer.text = s.upTo ('\n' :: s.newIndent) ++ s.following ∧
      s.insertNewline.1.cursor = s.selection.editSpan.start + 1 + s.newIndent.length := by
  by_cases hindent : s.newIndent = []
  · have hbroken := broken_leadsTo h
    rw [insertNewline_eq, hindent]
    exact ⟨hbroken.shown, hbroken.placed⟩
  · have hindented := indented_leadsTo h hindent
    exact ⟨hindented.shown, hindented.placed⟩

theorem newIndent_eq (h : s.Settled options)
    (apart : (s.text.take s.selection.editSpan.start).getLast? ≠ some '\r') :
    s.newIndent = Indent.after (s.buffer.lineUpTo s.selection.editSpan.start) := by
  have hbroken := broken_leadsTo h
  have hlength := length_upTo_newline h
  have hstart : (s.text.take s.selection.editSpan.start).length = s.selection.editSpan.start := by
    rw [upTo, List.length_append, List.length_singleton] at hlength
    exact Nat.add_right_cancel hlength
  have htext : s.buffer.text = s.text.take s.selection.editSpan.start ++
      s.text.drop s.selection.editSpan.start := by
    rw [List.take_append_drop, h.text_eq]
  have hopened : s.broken.buffer.text =
      s.text.take s.selection.editSpan.start ++ '\n' :: s.following := by
    rw [hbroken.shown, upTo, List.append_assoc, List.singleton_append]
  have hbefore := Buffer.lineText_before htext hopened apart
  rw [hstart] at hbefore
  rw [newIndent, lineColumn, hbroken.placed, hbefore]

/-! ## Indentation -/

/-- What starting a new line leads to: the feed and the indentation stand in place of the selection, and
undos take them back in turn. -/
structure StartsLine (s : Session) (indent : List Char) (after : Session) : Prop where
  text : after.text = s.upTo ('\n' :: indent) ++ s.following
  cursor : after.cursor = s.selection.editSpan.start + 1 + indent.length
  indentation : Indent.IsAfter (s.buffer.lineUpTo s.selection.editSpan.start) indent
  parts : s.newlineParts = .edit s.selection.editSpan ['\n'] .newline none ::
    if indent.isEmpty then []
    else [.edit (.point (s.selection.editSpan.start + 1)) indent .autoIndent none]
  performed : s.steps s.newlineParts = after
  unsubstituted : ∀ part ∈ s.newlineParts, part.isSubstitution = false
  undone : s.options.joinTyping = false →
    Text.byteLength (s.buffer.slice s.selection.editSpan) + 1 + Text.byteLength indent ≤
      History.maxBytes →
    (indent ≠ [] → s.UndoneInTwo ['\n'] after) ∧
      (indent = [] → after.undo.2 = true ∧ after.undo.1.text = s.text ∧ after.undo.1.cursor = s.cursor)

theorem isSubstitution_newlineParts (s : Session) :
    ∀ part ∈ s.newlineParts, part.isSubstitution = false := by
  rw [newlineParts_eq, List.forall_mem_cons]
  refine ⟨rfl, ?_⟩
  split
  · exact fun part hpart => absurd hpart List.not_mem_nil
  · intro part hpart
    rw [List.mem_singleton.mp hpart]
    rfl

theorem undone_insertNewline (h : s.Settled options) (alone : s.history.joining = false)
    (fits : Text.byteLength (s.buffer.slice s.selection.editSpan) + 1 +
      Text.byteLength s.newIndent ≤ History.maxBytes) :
    (s.newIndent ≠ [] → s.UndoneInTwo ['\n'] s.insertNewline.1) ∧
      (s.newIndent = [] → s.insertNewline.1.undo.2 = true ∧
        s.insertNewline.1.undo.1.text = s.text ∧ s.insertNewline.1.undo.1.cursor = s.cursor) := by
  obtain ⟨r, hlinked⟩ := h.linked
  have hafter : s.insertNewline.1.InStep options := by
    rw [← steps_newlineParts]
    exact (settled_steps h _).inStep
  have hundo := inStep_undo hafter
  have hundo' := inStep_undo hundo
  have hbroken := broken_leadsTo h
  constructor
  · intro hindent
    obtain ⟨⟨hdone, htext, hcursor⟩, hdone', htext', hcursor'⟩ :=
      undo_undo_leadsTo hlinked.bounded alone hbroken (indented_leadsTo h hindent) fits
    refine ⟨⟨hdone, hundo.text.symm.trans htext, ?_⟩, hdone', ?_, hcursor'⟩
    · rw [hcursor, length_upTo_newline h]
    · exact hundo'.text.symm.trans (htext'.trans h.text_eq.symm)
  · intro hindent
    have hsame : s.insertNewline.1 = s.broken := by
      rw [insertNewline_eq, hindent]
      rfl
    rw [hsame] at hundo ⊢
    obtain ⟨hdone, htext, hcursor⟩ := undo_leadsTo hlinked.bounded alone hbroken
      (Nat.le_trans (Nat.le_add_right _ _) fits)
    exact ⟨hdone, hundo.text.symm.trans (htext.trans h.text_eq.symm), hcursor⟩

/-- A new line after any actions, where no return stands before it. -/
theorem insertNewline_indents (library : Library) (disk : Disk) (options : EditorOptions)
    (actions : List Action) :
    let s := (start library disk options).run actions
    (s.text.take s.selection.editSpan.start).getLast? ≠ some '\r' →
      s.insertNewline.2 = true ∧ ∃ indent, s.StartsLine indent s.insertNewline.1 := by
  intro s apart
  have hsettled : s.Settled options := settled_run library disk options actions
  obtain ⟨hshown, hplaced⟩ := insertNewline_shown hsettled
  have hafter : s.insertNewline.1.InStep options := by
    rw [← steps_newlineParts]
    exact (settled_steps hsettled _).inStep
  refine ⟨s.insertNewline_accepted, s.newIndent, ?_, hplaced, ?_, ?_, s.steps_newlineParts,
    s.isSubstitution_newlineParts, ?_⟩
  · exact hafter.text.symm.trans hshown
  · rw [newIndent_eq hsettled apart]
    exact Indent.isAfter_after _
  · rw [newlineParts_eq, (broken_leadsTo hsettled).placed]
  · intro alone fits
    have hjoining : s.history.joining = false := by
      rw [joining_run, ← hsettled.inStep.fixed]
      exact alone
    exact undone_insertNewline hsettled hjoining fits

theorem insertNewline_indents_block :
    let s := (start default default .standard).run
      [.setText ['\t', 'x', '≠', 'D', 'o', ' ', 'y'], .aside (.select ⟨5, 7⟩)]
    (s.text.take s.selection.editSpan.start).getLast? ≠ some '\r' ∧
      (s.insertNewline.2 = true ∧ ∃ indent, s.StartsLine indent s.insertNewline.1) ∧
      s.insertNewline.1.buffer.text = ['\t', 'x', '≠', 'D', 'o', '\n', '\t', ' ', ' '] := by
  intro s
  -- What is shown is slow to evaluate, and the buffer is not.
  have hshown : s.text = s.buffer.text := (settled_run default default .standard _).text_eq
  have apart : (s.text.take s.selection.editSpan.start).getLast? ≠ some '\r' := by
    rw [hshown]
    decide +kernel
  exact ⟨apart, insertNewline_indents default default .standard _ apart, by decide +kernel⟩

/-! ## Lines -/

/-- The cursor stands behind a return that ends a line by itself. -/
def BehindReturn (s : Session) : Prop :=
  Text.LoneReturn (s.text.take s.cursor) (s.text.drop s.cursor)

instance (s : Session) : Decidable s.BehindReturn :=
  inferInstanceAs (Decidable (Text.LoneReturn _ _))

/-- How many lines a feed at the cursor opens. -/
def opened (s : Session) : Nat := if s.BehindReturn then 0 else 1

/-- What a new line at the cursor does to the lines, and where it leaves the cursor. -/
structure OpensLine (s : Session) (indent : List Char) (after : Session) : Prop where
  text : after.text = s.text.take s.cursor ++ '\n' :: indent ++ s.text.drop s.cursor
  blank : ∀ c ∈ indent, c = ' ' ∨ c = '\t'
  count : after.buffer.lineCount = s.buffer.lineCount + s.opened
  line : after.lineColumn.1 = s.lineColumn.1 + s.opened
  column : after.lineColumn.2 = indent.length

theorem opensLine_insertNewline (h : s.Settled options) (unselected : s.selection.span? = none) :
    s.OpensLine s.newIndent s.insertNewline.1 := by
  obtain ⟨hshown, hplaced⟩ := insertNewline_shown h
  have hafter : s.insertNewline.1.InStep options := by
    rw [← steps_newlineParts]
    exact (settled_steps h _).inStep
  have hspan : s.selection.editSpan = .point s.cursor := by
    rw [Selection.editSpan, unselected]
    rfl
  have htext : s.buffer.text = s.text.take s.cursor ++ s.text.drop s.cursor := by
    rw [List.take_append_drop, h.text_eq]
  have hlength : (s.text.take s.cursor).length = s.cursor := by
    have hinside := h.within.cursor
    rw [Buffer.length, ← h.text_eq] at hinside
    exact List.length_take_of_le hinside
  have hopened : s.insertNewline.1.buffer.text =
      s.text.take s.cursor ++ '\n' :: s.newIndent ++ s.text.drop s.cursor := by
    rw [hshown, upTo, following, hspan]
    rfl
  have hblank : ∀ c ∈ s.newIndent, c = ' ' ∨ c = '\t' := fun c hc => Indent.blank_of_mem_after hc
  have plain : ∀ c ∈ s.newIndent, Text.isLineEnd c = false := by
    intro c hc
    rcases hblank c hc with rfl | rfl <;> decide
  obtain ⟨hcount, hline⟩ := Buffer.opens_line htext hopened plain
  rw [hlength] at hline
  have hcursor : s.insertNewline.1.lineColumn =
      (s.lineColumn.1 + s.opened, s.newIndent.length) := by
    rw [lineColumn, hplaced, hspan]
    exact hline
  refine ⟨hafter.text.symm.trans hopened, hblank, hcount, ?_, ?_⟩
  · rw [hcursor]
  · rw [hcursor]

/-- Where nothing is selected, a new line is one line more, and the cursor stands in it behind the
indentation. Only behind a lone return the feed joins the return: there are as many lines as before,
and the cursor stays in its line. -/
theorem insertNewline_opens_line (library : Library) (disk : Disk) (options : EditorOptions)
    (actions : List Action) :
    let s := (start library disk options).run actions
    s.selection.span? = none → ∃ indent, s.OpensLine indent s.insertNewline.1 := by
  intro s unselected
  exact ⟨s.newIndent, opensLine_insertNewline (settled_run library disk options actions) unselected⟩

theorem insertNewline_opens_line_pair :
    let s := (start default default .standard).run
      [.setText [' ', 'a', '\r', '\n', 'b'], .aside (.setCursor 3)]
    s.selection.span? = none ∧ s.opened = 1 ∧ ∃ indent, s.OpensLine indent s.insertNewline.1 := by
  intro s
  have unselected : s.selection.span? = none := by decide +kernel
  have hshown : s.text = s.buffer.text := (settled_run default default .standard _).text_eq
  have hfirst : ¬ s.BehindReturn := by
    unfold BehindReturn
    rw [hshown]
    decide +kernel
  exact ⟨unselected, if_neg hfirst, insertNewline_opens_line default default .standard _ unselected⟩

/-- Behind a return no line is opened. -/
theorem newline_goes_with_return :
    ¬ ∀ actions : List Action,
      let s := (start default default .standard).run actions
      s.selection.span? = none →
        s.insertNewline.1.buffer.lineCount = s.buffer.lineCount + 1 ∧
          s.insertNewline.1.lineColumn.1 = s.lineColumn.1 + 1 := by
  intro h
  have hlines := h [.setText ['a', '\r', 'b'], .aside (.setCursor 2)] (by decide +kernel)
  revert hlines
  decide +kernel

end Session

end CodeEditor
