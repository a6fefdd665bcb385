import CodeEditor.Proofs.History.Snapshots
import CodeEditor.Proofs.Session.InStep

/-! # Undo and redo by snapshots

The history of a session does what an editor does that keeps whole snapshots. Such an editor watches
the session: it is shown each part of an action, and what held before and after it. Of the history it is
shown nothing.
-/

namespace CodeEditor

namespace Session

/-- The text that is shown, and the cursor. -/
def snapshot (s : Session) : Snapshot := ⟨s.text, s.cursor⟩

/-- What an edit leaves in the history. -/
def recorded (s : Session) (span : Span) (text : List Char) (intent : Intent)
    (cursor? : Option Nat) : Edit :=
  let span := span.clamp s.buffer.length
  { start := span.start
    deleted := s.buffer.slice span
    inserted := text
    intent := intent
    cursorBefore := s.cursor
    cursorAfter :=
      (Selection.place (cursor?.getD (span.start + text.length))
        (s.buffer.replace span text).length).cursor
    time := s.clock }

/-- What is to be remembered of an edit at a place in the text. -/
def memo (s : Session) (place : Span) (text : List Char) (intent : Intent) (after : Snapshot) :
    Memo where
  before := s.snapshot
  after := after
  bytes := Text.byteLength ((s.text.take place.stop).drop place.start) + Text.byteLength text
  typed? :=
    if intent = .insert ∧ place.isEmpty then some ⟨place.start, place.start + text.length⟩ else none
  time := s.clock

end Session

/-- Takes note of a part that is about to be done. An edit that puts nothing in place of nothing is not
one. -/
def Snapshots.observe (r : Snapshots) (s : Session) : Session.Part → Snapshots
  | .edit span text intent cursor? =>
    let place := span.clamp s.text.length
    if place.isEmpty && text.isEmpty then r
    else r.record (s.memo place text intent (s.edit span text (some intent) cursor?).1.snapshot)
  | .undo => r.undo
  | .redo => r.redo
  | .setText _ => .empty r.joining
  | .aside _ => r

namespace Session

def watchStep (w : Session × Snapshots) (part : Part) : Session × Snapshots :=
  (w.1.step part, w.2.observe w.1 part)

def watchAction (w : Session × Snapshots) (action : Action) : Session × Snapshots :=
  (w.1.parts action).foldl watchStep w

/-- Actions under the eyes of an editor that keeps snapshots. -/
def watch (s : Session) (actions : List Action) : Session × Snapshots :=
  actions.foldl watchAction (s, .empty s.options.joinTyping)

/-! ## Watching changes nothing -/

theorem foldl_watchStep_fst (w : Session × Snapshots) (parts : List Part) :
    (parts.foldl watchStep w).1 = w.1.steps parts := by
  induction parts generalizing w with
  | nil => rfl
  | cons part parts ih => exact ih (watchStep w part)

theorem watch_fst (s : Session) (actions : List Action) : (s.watch actions).1 = s.run actions := by
  have hfold : ∀ w : Session × Snapshots, (actions.foldl watchAction w).1 = w.1.run actions := by
    induction actions with
    | nil => exact fun w => rfl
    | cons action actions ih =>
      intro w
      rw [List.foldl_cons, ih, watchAction, foldl_watchStep_fst, steps_parts]
      rfl
  exact hfold (s, .empty s.options.joinTyping)

/-- What holds at the start and is kept by every part holds after any watched actions. -/
theorem watch_induction {P : Session → Snapshots → Prop}
    (hstep : ∀ s r part, P s r → P (s.step part) (r.observe s part)) {s : Session}
    (h : P s (.empty s.options.joinTyping)) (actions : List Action) :
    P (s.watch actions).1 (s.watch actions).2 := by
  have hparts : ∀ (parts : List Part) (w : Session × Snapshots), P w.1 w.2 →
      P (parts.foldl watchStep w).1 (parts.foldl watchStep w).2 := by
    intro parts
    induction parts with
    | nil => exact fun w hw => hw
    | cons part parts ih => exact fun w hw => ih _ (hstep w.1 w.2 part hw)
  have hactions : ∀ w : Session × Snapshots, P w.1 w.2 →
      P (actions.foldl watchAction w).1 (actions.foldl watchAction w).2 := by
    induction actions with
    | nil => exact fun w hw => hw
    | cons action actions ih => exact fun w hw => ih _ (hparts _ w hw)
  exact hactions (s, .empty s.options.joinTyping) h

/-! ## Edits -/

theorem edit_unchanged {s : Session} {span : Span} {text : List Char} {intent? : Option Intent}
    {cursor? : Option Nat}
    (nothing : ((span.clamp s.buffer.length).isEmpty && text.isEmpty) = true) :
    s.edit span text intent? cursor? = (s, false) := by
  unfold edit
  simp only [nothing, if_true]

theorem edit_changed {s : Session} {span : Span} {text : List Char} (intent? : Option Intent)
    (cursor? : Option Nat)
    (something : ((span.clamp s.buffer.length).isEmpty && text.isEmpty) = false) :
    let c := span.clamp s.buffer.length
    let r := s.edit span text intent? cursor?
    r.2 = true ∧ r.1.buffer = s.buffer.replace c text ∧
      r.1.cursor = min (cursor?.getD (c.start + text.length)) (s.buffer.replace c text).length ∧
      r.1.history =
        match intent? with
        | none => s.history
        | some intent => s.history.record (s.recorded span text intent cursor?) := by
  unfold edit
  simp only [something, Bool.false_eq_true, if_false]
  refine ⟨trivial, rfl, rfl, ?_⟩
  cases intent? <;> rfl

theorem applyStep_leads {s : Session} {h : History} {r : Replacement} {t : Snapshot}
    (leads : r.Leads s.buffer.text t) :
    let moved := s.applyStep (some (h, r))
    moved.2 = true ∧ moved.1.buffer.text = t.text ∧ moved.1.cursor = t.cursor ∧
      moved.1.history = h := by
  obtain ⟨⟨before, old, after, hbuffer, hspan, htext, hchanges⟩, hcursor, hinside⟩ := leads
  have hlength : s.buffer.length = before.length + old.length + after.length := by
    rw [Buffer.length, hbuffer, List.length_append, List.length_append]
  have hclamp : r.span.clamp s.buffer.length = r.span := by
    rw [hspan]
    exact Span.clamp_eq_self (Nat.le_add_right _ _) (by rw [hlength]; exact Nat.le_add_right _ _)
  have something : ((r.span.clamp s.buffer.length).isEmpty && r.text.isEmpty) = false := by
    rw [hclamp, hspan, Bool.eq_false_iff]
    intro hnone
    simp only [Bool.and_eq_true, Span.isEmpty, decide_eq_true_iff, List.isEmpty_iff] at hnone
    exact hchanges ⟨List.eq_nil_of_length_eq_zero (by omega), hnone.2⟩
  have hreplace : (s.buffer.replace r.span r.text).text = t.text := by
    rw [Buffer.replace, hclamp, hspan, hbuffer, htext]
    simp
  obtain ⟨hdone, hmoved, hplace, hhistory⟩ :=
    edit_changed (s := { s with history := h }) none (some r.cursor) something
  rw [hclamp] at hmoved hplace
  refine ⟨hdone, ?_, ?_, hhistory⟩
  · exact (congrArg Buffer.text hmoved).trans hreplace
  · refine hplace.trans ?_
    rw [Option.getD_some, Buffer.length, hreplace, ← hcursor]
    exact min_eq_left hinside

theorem links_recorded {s : Session} {span : Span} {text : List Char} (intent : Intent)
    (cursor? : Option Nat) (inside : s.cursor ≤ s.buffer.length)
    (something : ((span.clamp s.buffer.length).isEmpty && text.isEmpty) = false) :
    let edited := (s.edit span text (some intent) cursor?).1
    (s.recorded span text intent cursor?).Links
      ⟨⟨s.buffer.text, s.cursor⟩, ⟨edited.buffer.text, edited.cursor⟩⟩ := by
  obtain ⟨-, hbuffer, hcursor, -⟩ := edit_changed (some intent) cursor? something
  have ordered := Span.clamp_ordered span s.buffer.length
  have hfits : (span.clamp s.buffer.length).stop ≤ s.buffer.text.length :=
    Span.clamp_stop_le span s.buffer.length
  have hclamp := Span.clamp_clamp span s.buffer.length
  refine ⟨⟨s.buffer.text.take (span.clamp s.buffer.length).start,
    s.buffer.text.drop (span.clamp s.buffer.length).stop, ?_, ?_, ?_⟩, rfl, ?_, inside, ?_, ?_⟩
  · simp only [recorded, List.length_take]
    omega
  · simp only [recorded, Buffer.slice]
    rw [List.drop_take, ← List.take_add, Nat.add_sub_cancel' ordered, List.take_append_drop]
  · simp only [hbuffer, Buffer.replace, hclamp]
    rfl
  · simp only [hcursor]
    rfl
  · simp only [hcursor, hbuffer]
    exact min_le_right _ _
  · rintro ⟨hdeleted, hinserted⟩
    have hlength := congrArg List.length hdeleted
    simp only [recorded, Buffer.slice, List.length_drop, List.length_take, List.length_nil]
      at hlength hinserted
    rw [Bool.eq_false_iff] at something
    refine something ?_
    simp only [Bool.and_eq_true, Span.isEmpty, decide_eq_true_iff, List.isEmpty_iff]
    exact ⟨by omega, hinserted⟩

theorem snapshot_eq {options : EditorOptions} {s : Session} (h : s.InStep options) :
    s.snapshot = ⟨s.buffer.text, s.cursor⟩ := by
  rw [h.text]
  rfl

theorem matches_recorded {options : EditorOptions} {s : Session} (hstep : s.InStep options)
    {span : Span} {text : List Char} (intent : Intent) (cursor? : Option Nat)
    (inside : s.cursor ≤ s.buffer.length)
    (something : ((span.clamp s.buffer.length).isEmpty && text.isEmpty) = false) :
    (s.recorded span text intent cursor?).Matches
      (s.memo (span.clamp s.text.length) text intent
        (s.edit span text (some intent) cursor?).1.snapshot) := by
  have hlinks := links_recorded intent cursor? inside something
  have hlength : s.text.length = s.buffer.length := congrArg List.length hstep.text.symm
  have hfits : (span.clamp s.buffer.length).stop ≤ s.buffer.text.length :=
    Span.clamp_stop_le span s.buffer.length
  simp only at hlinks
  rw [← snapshot_eq hstep, ← snapshot_eq (inStep_edit hstep span text (some intent) cursor?)] at hlinks
  rw [hlength]
  refine ⟨hlinks, ?_, ?_, rfl⟩
  · simp only [memo, recorded, Edit.bytes, Buffer.slice, ← show s.buffer.text = s.text from hstep.text]
  · have hplace : s.buffer.slice (span.clamp s.buffer.length) = [] ↔
        (span.clamp s.buffer.length).isEmpty = true := by
      rw [← List.length_eq_zero_iff]
      simp only [Buffer.slice, List.length_drop, List.length_take, Span.isEmpty, decide_eq_true_iff]
      omega
    simp only [memo, recorded, hplace]

/-! ## The two memories -/

/-- The history of a session and the memory of the editor that watches it hold the same. -/
structure Linked (s : Session) (r : Snapshots) : Prop where
  inside : s.cursor ≤ s.buffer.length
  joining : s.history.joining = r.joining
  past : Trail (·.after) (·.before) s.history.done r.past s.buffer.text
  future : Trail (·.before) (·.after) s.history.undone r.future s.buffer.text
  bounded : s.history.Bounded

variable {options : EditorOptions} {s : Session} {r : Snapshots}

theorem linked_start (library : Library) (disk : Disk) (options : EditorOptions) :
    (start library disk options).Linked (.empty options.joinTyping) :=
  ⟨Nat.zero_le _, rfl, .nil, .nil, History.bounded_new options.joinTyping⟩

theorem linked_setText (h : s.Linked r) (text : List Char) :
    (s.setText text).Linked (.empty r.joining) :=
  ⟨Nat.zero_le _, h.joining, .nil, .nil, History.bounded_new s.history.joining⟩

theorem observe_edit (hstep : s.InStep options) (span : Span) (text : List Char) (intent : Intent)
    (cursor? : Option Nat) :
    r.observe s (.edit span text intent cursor?) =
      if ((span.clamp s.buffer.length).isEmpty && text.isEmpty) = true then r
      else r.record (s.memo (span.clamp s.text.length) text intent
        (s.edit span text (some intent) cursor?).1.snapshot) := by
  have hlength : s.text.length = s.buffer.length := congrArg List.length hstep.text.symm
  rw [Snapshots.observe, hlength]

theorem linked_edit (hstep : s.InStep options) (h : s.Linked r) (span : Span) (text : List Char)
    (intent : Intent) (cursor? : Option Nat) :
    (s.edit span text (some intent) cursor?).1.Linked
      (r.observe s (.edit span text intent cursor?)) := by
  rw [observe_edit hstep]
  cases hchange : ((span.clamp s.buffer.length).isEmpty && text.isEmpty) with
  | true =>
    rw [edit_unchanged hchange, if_pos rfl]
    exact h
  | false =>
    have hmatches := matches_recorded hstep intent cursor? h.inside hchange
    have hedited := snapshot_eq (inStep_edit hstep span text (some intent) cursor?)
    obtain ⟨-, hbuffer, hcursor, hhistory⟩ := edit_changed (some intent) cursor? hchange
    obtain ⟨-, -, hundone, hbounded⟩ := History.record_eq h.bounded.counted hmatches.isEmpty
    have hpast : Trail (·.after) (·.before) s.history.done r.past s.snapshot.text := by
      rw [snapshot_eq hstep]
      exact h.past
    have hrecord := History.trail_record h.bounded h.joining hmatches hpast
    rw [if_neg Bool.false_ne_true]
    refine ⟨?_, ?_, ?_, ?_, ?_⟩
    · rw [hcursor, hbuffer]
      exact min_le_right _ _
    · rw [hhistory]
      exact (History.joining_record _ _).trans h.joining
    · have htext := congrArg Snapshot.text hedited
      simp only at htext
      rw [hhistory, ← htext]
      exact hrecord
    · rw [hhistory, hundone]
      exact .nil
    · rw [hhistory]
      exact hbounded

theorem linked_applyStep {h : History} {step : Replacement} {t : Snapshot}
    (leads : step.Leads s.buffer.text t) (joining : h.joining = r.joining)
    (past : Trail (·.after) (·.before) h.done r.past t.text)
    (future : Trail (·.before) (·.after) h.undone r.future t.text) (bounded : h.Bounded) :
    let moved := s.applyStep (some (h, step))
    moved.1.Linked r ∧
      (if moved.2 then some ⟨moved.1.buffer.text, moved.1.cursor⟩ else none) = some t := by
  obtain ⟨hmoved, htext, hcursor, hhistory⟩ := applyStep_leads leads
  refine ⟨⟨?_, ?_, ?_, ?_, ?_⟩, ?_⟩
  · rw [hcursor, Buffer.length, htext]
    exact leads.inside
  · rw [hhistory]
    exact joining
  · rw [hhistory, htext]
    exact past
  · rw [hhistory, htext]
    exact future
  · rw [hhistory]
    exact bounded
  · rw [hmoved, htext, hcursor]
    rfl

/-- An undo moves both memories, and arrives where the snapshots say. -/
theorem undo_spec (h : s.Linked r) :
    s.undo.1.Linked r.undo ∧
      (if s.undo.2 then some ⟨s.undo.1.buffer.text, s.undo.1.cursor⟩ else none) = r.undone? := by
  obtain ⟨hinside, hjoining, hpast, hfuture, hbounded⟩ := h
  rcases r with ⟨joining, past, future⟩
  cases hdone : s.history.done with
  | nil =>
    rw [hdone] at hpast
    cases hpast
    have hnone : s.undo = (s, false) := by rw [undo, History.undo?, hdone]; rfl
    rw [hnone]
    exact ⟨⟨hinside, hjoining, by rw [hdone]; exact .nil, hfuture, hbounded⟩, rfl⟩
  | cons e es =>
    rw [hdone] at hpast
    obtain _ | @⟨_, p, _, ps, _, links, here, rest⟩ := hpast
    rw [← here] at hfuture
    have leads := Edit.leads_backward links.toLinks
    rw [show p.after.text = s.buffer.text from here] at leads
    rw [undo, History.undo?_cons hdone]
    exact linked_applyStep leads hjoining rest (.cons links rfl hfuture)
      (History.bounded_undo hbounded hdone)

/-- A redo moves both memories, and arrives where the snapshots say. -/
theorem redo_spec (h : s.Linked r) :
    s.redo.1.Linked r.redo ∧
      (if s.redo.2 then some ⟨s.redo.1.buffer.text, s.redo.1.cursor⟩ else none) = r.redone? := by
  obtain ⟨hinside, hjoining, hpast, hfuture, hbounded⟩ := h
  rcases r with ⟨joining, past, future⟩
  cases hundone : s.history.undone with
  | nil =>
    rw [hundone] at hfuture
    cases hfuture
    have hnone : s.redo = (s, false) := by rw [redo, History.redo?, hundone]; rfl
    rw [hnone]
    exact ⟨⟨hinside, hjoining, hpast, by rw [hundone]; exact .nil, hbounded⟩, rfl⟩
  | cons e es =>
    rw [hundone] at hfuture
    obtain _ | @⟨_, p, _, ps, _, links, here, rest⟩ := hfuture
    rw [← here] at hpast
    have leads := Edit.leads_forward links.toLinks
    rw [show p.before.text = s.buffer.text from here] at leads
    rw [redo, History.redo?_cons hbounded hundone]
    exact linked_applyStep leads hjoining (.cons links rfl hpast) rest
      (History.bounded_redo hbounded hundone)

theorem stepAside_spec (inside : s.cursor ≤ s.buffer.length) (call : Aside) :
    (s.stepAside call).buffer = s.buffer ∧ (s.stepAside call).history = s.history ∧
      (s.stepAside call).cursor ≤ s.buffer.length := by
  cases call with
  | setCursor position => exact ⟨rfl, rfl, min_le_right _ _⟩
  | moveCursor position select => exact ⟨rfl, rfl, min_le_right _ _⟩
  | select span => exact ⟨rfl, rfl, Span.clamp_stop_le span s.buffer.length⟩
  | scrollTo position =>
    rw [stepAside, scrollTo]
    split <;> exact ⟨rfl, rfl, inside⟩
  | gutterRows rows wrap =>
    rw [stepAside, gutterRows?]
    cases s.gutter.layout? s.buffer ⟨s.firstVisible, rows, wrap⟩ <;> exact ⟨rfl, rfl, inside⟩
  | saveFile file =>
    rw [stepAside, saveFile]
    cases s.disk.write file (Text.Utf8.encode s.text) <;> exact ⟨rfl, rfl, inside⟩
  | selectTheme name =>
    unfold stepAside selectTheme
    simp only
    split <;> exact ⟨rfl, rfl, inside⟩
  | selectGrammar name =>
    unfold stepAside selectGrammar
    simp only
    split
    · exact ⟨rfl, rfl, inside⟩
    · split <;> exact ⟨rfl, rfl, inside⟩
  | _ => exact ⟨rfl, rfl, inside⟩

theorem linked_step (hstep : s.InStep options) (h : s.Linked r) (part : Part) :
    (s.step part).Linked (r.observe s part) := by
  cases part with
  | edit span text intent cursor? => exact linked_edit hstep h span text intent cursor?
  | undo => exact (undo_spec h).1
  | redo => exact (redo_spec h).1
  | setText text => exact linked_setText h text
  | aside call =>
    obtain ⟨hbuffer, hhistory, hinside⟩ := stepAside_spec h.inside call
    constructor
    · rw [step, hbuffer]
      exact hinside
    · rw [step, hhistory]
      exact h.joining
    · rw [step, hbuffer, hhistory]
      exact h.past
    · rw [step, hbuffer, hhistory]
      exact h.future
    · rw [step, hhistory]
      exact h.bounded

/-- After any actions an undo and a redo do something exactly when the editor that keeps snapshots has
one to go to, and what is then shown is that snapshot. -/
theorem undo_redo_refine_snapshots (library : Library) (disk : Disk) (options : EditorOptions)
    (actions : List Action) :
    let w := (start library disk options).watch actions
    let s := (start library disk options).run actions
    w.1 = s ∧ (if s.undo.2 then some s.undo.1.snapshot else none) = w.2.undone? ∧
      (if s.redo.2 then some s.redo.1.snapshot else none) = w.2.redone? := by
  have hwatch := watch_fst (start library disk options) actions
  obtain ⟨hstep, hlinked⟩ :=
    watch_induction (P := fun s r => s.InStep options ∧ s.Linked r)
      (fun s r part h => ⟨inStep_step h.1 part, linked_step h.1 h.2 part⟩)
      ⟨inStep_start library disk, linked_start library disk options⟩ actions
  rw [hwatch] at hstep hlinked
  refine ⟨hwatch, ?_, ?_⟩
  · rw [snapshot_eq (inStep_undo hstep)]
    exact (undo_spec hlinked).2
  · rw [snapshot_eq (inStep_redo hstep)]
    exact (redo_spec hlinked).2

end Session

end CodeEditor
