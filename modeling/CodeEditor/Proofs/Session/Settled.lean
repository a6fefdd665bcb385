import CodeEditor.Proofs.Session.Snapshots

/-! # What holds of a session after any actions

Buffer and display are in step, the history leads through whole texts, and the cursor and the other end
of the selection lie in the text.
-/

namespace CodeEditor

namespace Selection

/-- The cursor and the other end of the selection lie in a text of this length. -/
structure Within (s : Selection) (length : Nat) : Prop where
  cursor : s.cursor ≤ length
  anchor : ∀ position, s.anchor = some position → position ≤ length

variable {s : Selection} {length : Nat}

theorem Within.span? (h : s.Within length) {selected : Span} (hspan : s.span? = some selected) :
    selected.start ≤ length ∧ selected.stop ≤ length := by
  have hcursor := h.cursor
  unfold Selection.span? at hspan
  split at hspan
  · cases hspan
  · next anchor hanchor =>
    have := h.anchor anchor hanchor
    split at hspan
    · cases hspan
      exact ⟨this, hcursor⟩
    · split at hspan
      · cases hspan
        exact ⟨hcursor, this⟩
      · cases hspan

theorem within_place (position length : Nat) : (place position length).Within length := by
  refine ⟨min_le_right _ _, ?_⟩
  rintro _ ⟨⟩

theorem within_over (span : Span) (length : Nat) : («over» span length).Within length := by
  refine ⟨Span.clamp_stop_le span length, ?_⟩
  rintro _ ⟨⟩
  exact Span.clamp_start_le span length

theorem Within.move (h : s.Within length) (position : Nat) (select : Bool) :
    (s.move position length select).Within length := by
  refine ⟨min_le_right _ _, ?_⟩
  intro anchor hanchor
  cases select with
  | false => cases hanchor
  | true =>
    have hcursor := h.cursor
    simp only [Selection.move, if_true, Option.some.injEq] at hanchor
    rw [← hanchor]
    cases hold : s.anchor with
    | none => simpa using hcursor
    | some position => simpa using h.anchor position hold

end Selection

namespace Session

structure Settled (options : EditorOptions) (s : Session) : Prop where
  inStep : s.InStep options
  linked : ∃ r, s.Linked r
  within : s.selection.Within s.buffer.length

variable {options : EditorOptions} {s : Session}

theorem Settled.text_eq (h : s.Settled options) : s.text = s.buffer.text := h.inStep.text.symm

theorem within_edit (h : s.selection.Within s.buffer.length) (span : Span) (text : List Char)
    (intent? : Option Intent) (cursor? : Option Nat) :
    (s.edit span text intent? cursor?).1.selection.Within
      (s.edit span text intent? cursor?).1.buffer.length := by
  unfold edit
  simp only
  split
  · exact h
  · exact Selection.within_place _ _

theorem within_applyStep (h : s.selection.Within s.buffer.length)
    (step? : Option (History × Replacement)) :
    (s.applyStep step?).1.selection.Within (s.applyStep step?).1.buffer.length := by
  unfold applyStep
  split
  · exact h
  · next history r => exact within_edit (s := { s with history := history }) h _ _ _ _

theorem within_stepAside (h : s.selection.Within s.buffer.length) (call : Aside) :
    (s.stepAside call).selection.Within (s.stepAside call).buffer.length := by
  cases call with
  | setCursor position => exact Selection.within_place _ _
  | moveCursor position select => exact h.move position select
  | select span => exact Selection.within_over _ _
  | scrollTo position =>
    unfold stepAside scrollTo
    simp only
    split <;> exact h
  | gutterRows rows wrap =>
    rw [stepAside, gutterRows?]
    cases s.gutter.layout? s.buffer ⟨s.firstVisible, rows, wrap⟩ <;> exact h
  | saveFile file =>
    rw [stepAside, saveFile]
    cases s.disk.write file (Text.Utf8.encode s.text) <;> exact h
  | selectTheme name =>
    unfold stepAside selectTheme
    simp only
    split <;> exact h
  | selectGrammar name =>
    unfold stepAside selectGrammar
    simp only
    split
    · exact h
    · split <;> exact h
  | _ => exact h

theorem settled_step (h : s.Settled options) (part : Part) : (s.step part).Settled options := by
  obtain ⟨hstep, ⟨r, hlinked⟩, hwithin⟩ := h
  refine ⟨inStep_step hstep part, ⟨r.observe s part, linked_step hstep hlinked part⟩, ?_⟩
  cases part with
  | edit span text intent cursor? => exact within_edit hwithin span text _ cursor?
  | undo => exact within_applyStep hwithin s.history.undo?
  | redo => exact within_applyStep hwithin s.history.redo?
  | setText text => exact Selection.within_place _ _
  | aside call => exact within_stepAside hwithin call

theorem settled_steps (h : s.Settled options) (parts : List Part) :
    (s.steps parts).Settled options := by
  induction parts generalizing s with
  | nil => exact h
  | cons part parts ih => exact ih (settled_step h part)

theorem settled_run (library : Library) (disk : Disk) (options : EditorOptions)
    (actions : List Action) : ((start library disk options).run actions).Settled options := by
  apply run_induction (P := fun s => s.Settled options)
  · exact fun _ part h => settled_step h part
  · exact ⟨inStep_start library disk, ⟨_, linked_start library disk options⟩,
      Selection.within_place 0 0⟩

/-! ## The ends of edits -/

theorem Linked.done_inside {r : Snapshots} (h : s.Linked r) {e : Edit} {es : List Edit}
    (hdone : s.history.done = e :: es) : e.start + e.inserted.length ≤ s.buffer.length := by
  obtain ⟨joining, past, future⟩ := r
  have hpast := h.past
  rw [hdone] at hpast
  obtain _ | @⟨_, p, _, ps, _, links, here, rest⟩ := hpast
  obtain ⟨before, after, hstart, -, hafter⟩ := links.texts
  rw [Buffer.length, ← here, hafter, List.length_append, List.length_append, hstart]
  exact Nat.le_add_right _ _

theorem Linked.undone_inside {r : Snapshots} (h : s.Linked r) {e : Edit} {es : List Edit}
    (hundone : s.history.undone = e :: es) : e.start + e.deleted.length ≤ s.buffer.length := by
  obtain ⟨joining, past, future⟩ := r
  have hfuture := h.future
  rw [hundone] at hfuture
  obtain _ | @⟨_, p, _, ps, _, links, here, rest⟩ := hfuture
  obtain ⟨before, after, hstart, hbefore, -⟩ := links.texts
  rw [Buffer.length, ← here, hbefore, List.length_append, List.length_append, hstart]
  exact Nat.le_add_right _ _

end Session

end CodeEditor
