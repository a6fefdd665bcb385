import CodeEditor.Proofs.Session.Bare
import CodeEditor.Proofs.Session.Settled

/-! # Joined edits

Where edits are joined, an undo takes back several of them at once. It leads nowhere that single undos
do not lead: the snapshots that are passed are among theirs, in the same order and with the same one at
the end.
-/

namespace CodeEditor

namespace History

/-! ## Within the limits -/

theorem bytes_join_le (last e : Edit) : (last.join e).bytes ≤ last.bytes + e.bytes := by
  simp only [Edit.bytes, Edit.join, Text.byteLength_append]
  omega

theorem length_push_le (h : History) (e : Edit) :
    (h.push e).done.length ≤ h.done.length + 1 := by
  cases hjoin : h.joins e with
  | false =>
    rw [done_push_of_not_joins hjoin]
    exact le_rfl
  | true =>
    obtain ⟨last, rest, hdone, -, hpush⟩ := done_push_of_joins hjoin
    rw [hpush, hdone]
    exact Nat.le_succ _

theorem held_push_le (h : History) (e : Edit) : held (h.push e).done ≤ held h.done + e.bytes := by
  cases hjoin : h.joins e with
  | false =>
    rw [done_push_of_not_joins hjoin]
    simp only [held, List.map_cons, List.sum_cons]
    omega
  | true =>
    obtain ⟨last, rest, hdone, -, hpush⟩ := done_push_of_joins hjoin
    have hbytes := bytes_join_le last e
    rw [hpush, hdone]
    simp only [held, List.map_cons, List.sum_cons]
    omega

theorem joins_of_not_joining {h : History} (alone : h.joining = false) (e : Edit) :
    h.joins e = false := by
  unfold joins
  split
  · rfl
  · rw [alone, Bool.false_and]

theorem undone_trim (h : History) : h.trim.undone = h.undone := by
  unfold trim
  split <;> rfl

theorem held_append (es es' : List Edit) : held (es ++ es') = held es + held es' := by
  simp [held]

theorem record_eq_push {h : History} (counted : h.bytes = held h.done) {e : Edit}
    (changes : e.isEmpty = false) (count : h.done.length + 1 ≤ maxEdits)
    (bytes : held h.done + e.bytes ≤ maxBytes) : h.record e = { h with undone := [] }.push e := by
  have hlength := length_push_le { h with undone := [] } e
  have hheld := held_push_le { h with undone := [] } e
  rw [record, changes, if_neg Bool.false_ne_true]
  apply trim_eq_self
  · exact hlength.trans count
  · rw [counted_push (h := { h with undone := [] }) counted e]
    exact hheld.trans bytes

end History

/-! ## Snapshots passed by undos -/

namespace Snapshots

/-- Where undos lead, one after the other. -/
def passed (r : Snapshots) : List Snapshot := r.past.map (·.before)

theorem passed_record {h : History} {r : Snapshots} (bounded : h.Bounded)
    (same : h.joining = r.joining) {e : Edit} {m : Memo} (links : e.Matches m)
    (past : Trail (·.after) (·.before) h.done r.past m.before.text)
    (count : h.done.length + 1 ≤ History.maxEdits)
    (bytes : History.held h.done + e.bytes ≤ History.maxBytes) :
    (r.record m).passed = if h.joins e then r.passed else m.before :: r.passed := by
  have hall := History.trail_extended same links past
  have hrecord := History.trail_record bounded same links past
  have hpush : (h.record e).done = h.extended e := by
    rw [History.record_eq_push bounded.counted links.isEmpty count bytes]
    exact History.done_push _ e
  -- As no edit is dropped, no memo is.
  have hkept : (r.record m).past = r.extended m := by
    have hlength := hrecord.length_eq
    rw [hpush, hall.length_eq] at hlength
    exact (prefix_recent Memo.bytes 500 (8 * 1024 * 1024) (r.extended m)).eq_of_length hlength.symm
  rw [passed, hkept]
  rcases r with ⟨joining, past', future⟩
  unfold extended History.joins
  generalize h.done = done at past
  cases past with
  | nil => rfl
  | cons hlast here rest =>
    simp only [same, Edit.continuedBy_eq hlast links]
    split
    · simp [passed, Memo.join]
    · simp [passed]

end Snapshots

theorem Trail.here {near far : Memo → Snapshot} {es : List Edit} {m : Memo} {ms : List Memo}
    {text : List Char} (h : Trail near far es (m :: ms) text) : (near m).text = text := by
  cases h with
  | cons links here rest => exact here

/-- The one list is made from the other by leaving out some, but not the last. -/
structure Grouped {α : Type} (few all : List α) : Prop where
  among : few.Sublist all
  ends : few.getLast? = all.getLast?

namespace Grouped

variable {α : Type} {few all : List α}

theorem nil : Grouped ([] : List α) [] := ⟨.slnil, rfl⟩

theorem cons (h : Grouped few all) (x : α) : Grouped (x :: few) (x :: all) :=
  ⟨h.among.cons_cons x, by rw [List.getLast?_cons, List.getLast?_cons, h.ends]⟩

theorem skip (h : Grouped few all) (some : few ≠ []) (x : α) : Grouped few (x :: all) := by
  refine ⟨h.among.cons x, ?_⟩
  have hall : all ≠ [] := by
    rintro rfl
    exact some (List.sublist_nil.mp h.among)
  rw [h.ends, List.getLast?_cons_of_ne_nil hall]

end Grouped

namespace Session

/-! ## Undoing and redoing everything -/

/-- Where a step leads each time when it is taken until there is nothing left, and the session then. -/
def exhaust (step : Session → Session × Bool) (left : Session → Nat)
    (fewer : ∀ s, (step s).2 = true → left (step s).1 < left s) (s : Session) :
    List Snapshot × Session :=
  if done : (step s).2 = true then
    have := fewer s done
    let (passed, last) := exhaust step left fewer (step s).1
    ((step s).1.snapshot :: passed, last)
  else ([], s)
termination_by left s

theorem history_edit_none (s : Session) (span : Span) (text : List Char) (cursor? : Option Nat) :
    (s.edit span text none cursor?).1.history = s.history := by
  unfold edit
  simp only
  split <;> rfl

theorem done_undo_lt (s : Session) (done : s.undo.2 = true) :
    s.undo.1.history.done.length < s.history.done.length := by
  unfold undo at *
  cases hdone : s.history.done with
  | nil =>
    rw [History.undo?, hdone] at done
    cases done
  | cons e es =>
    rw [History.undo?_cons hdone]
    unfold applyStep
    simp only
    rw [history_edit_none]
    exact Nat.lt_succ_self _

theorem undone_redo_lt (s : Session) (done : s.redo.2 = true) :
    s.redo.1.history.undone.length < s.history.undone.length := by
  unfold redo History.redo? at *
  cases hundone : s.history.undone with
  | nil =>
    rw [hundone] at done
    cases done
  | cons e es =>
    unfold applyStep
    simp only
    rw [history_edit_none, History.undone_trim]
    exact Nat.lt_succ_self _

def undoAll (s : Session) : List Snapshot × Session :=
  s.exhaust undo (·.history.done.length) done_undo_lt

def redoAll (s : Session) : List Snapshot × Session :=
  s.exhaust redo (·.history.undone.length) undone_redo_lt

theorem snapshot_exhaust (step : Session → Session × Bool) (left : Session → Nat)
    (fewer : ∀ s, (step s).2 = true → left (step s).1 < left s) (s : Session) :
    (s.exhaust step left fewer).2.snapshot =
      (s.exhaust step left fewer).1.getLast?.getD s.snapshot := by
  fun_induction exhaust step left fewer s with
  | case1 s done _ passed last hrest ih =>
    rw [hrest] at ih
    rw [List.getLast?_cons]
    exact ih
  | case2 s done => rfl

variable {options options' : EditorOptions} {s s' : Session} {r r' : Snapshots}

theorem undoAll_spec (hstep : s.InStep options) (h : s.Linked r) :
    s.undoAll.1 = r.passed ∧ s.undoAll.2.InStep options ∧
      s.undoAll.2.Linked ⟨r.joining, [], r.past.reverse ++ r.future⟩ := by
  obtain ⟨joining, past, future⟩ := r
  induction past generalizing s future with
  | nil =>
    obtain ⟨-, hled⟩ := undo_spec h
    have hstuck : s.undo.2 ≠ true := by simpa [Snapshots.undone?] using hled
    rw [undoAll, exhaust, dif_neg hstuck]
    exact ⟨rfl, hstep, h⟩
  | cons p past ih =>
    obtain ⟨hlinked, hled⟩ := undo_spec h
    have hundone := inStep_undo hstep
    rw [← snapshot_eq hundone] at hled
    obtain ⟨hdone, hthere⟩ := Option.ite_none_right_eq_some.mp hled
    obtain ⟨hpassed, hlast, hall⟩ := ih hundone (p :: future) hlinked
    rw [undoAll, exhaust, dif_pos hdone]
    refine ⟨congrArg₂ List.cons (Option.some.inj hthere) hpassed, hlast, ?_⟩
    rw [List.reverse_cons, List.append_assoc]
    exact hall

theorem redoAll_spec (hstep : s.InStep options) (h : s.Linked r) :
    s.redoAll.1 = r.future.map (·.after) := by
  obtain ⟨joining, past, future⟩ := r
  induction future generalizing s past with
  | nil =>
    obtain ⟨-, hled⟩ := redo_spec h
    have hstuck : s.redo.2 ≠ true := by simpa [Snapshots.redone?] using hled
    rw [redoAll, exhaust, dif_neg hstuck]
    rfl
  | cons p future ih =>
    obtain ⟨hlinked, hled⟩ := redo_spec h
    have hredone := inStep_redo hstep
    rw [← snapshot_eq hredone] at hled
    obtain ⟨hdone, hthere⟩ := Option.ite_none_right_eq_some.mp hled
    rw [redoAll, exhaust, dif_pos hdone]
    exact congrArg₂ List.cons (Option.some.inj hthere) (ih hredone (p :: past) hlinked)

theorem text_redoAll_undoAll (hstep : s.InStep options) (h : s.Linked r) (nothing : r.future = []) :
    s.undoAll.2.redoAll.2.text = s.text := by
  obtain ⟨hpassed, hback, hundone⟩ := undoAll_spec hstep h
  have hredone := redoAll_spec hback hundone
  have hstart : s.undoAll.2.snapshot = s.undoAll.1.getLast?.getD s.snapshot :=
    snapshot_exhaust undo _ done_undo_lt s
  have hend : s.undoAll.2.redoAll.2.snapshot =
      s.undoAll.2.redoAll.1.getLast?.getD s.undoAll.2.snapshot :=
    snapshot_exhaust redo _ undone_redo_lt s.undoAll.2
  rw [hredone, nothing, hstart, hpassed] at hend
  refine (congrArg Snapshot.text hend).trans ?_
  -- The last redo is over the edit that was made last, which ends at the text as it was.
  obtain ⟨joining, past, future⟩ := r
  cases past with
  | nil => rfl
  | cons p past =>
    have hhere : p.after.text = s.text := h.past.here.trans hstep.text
    simpa using hhere

/-! ## The edits of some parts -/

/-- The edit that a part leaves in the history, if it leaves one. -/
def recordedIn (s : Session) : Part → List Edit
  | .edit span text intent cursor? =>
    if (s.edit span text (some intent) cursor?).2 then [s.recorded span text intent cursor?] else []
  | _ => []

def editsIn (s : Session) : List Part → List Edit
  | [] => []
  | part :: parts => s.recordedIn part ++ (s.step part).editsIn parts

theorem recordedIn_bare (s : Session) (part : Part) : s.bare.recordedIn part = s.recordedIn part := by
  cases part with
  | edit span text intent cursor? =>
    simp only [recordedIn]
    rw [(s.bare_edit span text (some intent) cursor?).2]
    rfl
  | _ => rfl

theorem recordedIn_congr (h : s.bare = s'.bare) (part : Part) :
    s.recordedIn part = s'.recordedIn part := by
  rw [← recordedIn_bare s, h, recordedIn_bare s']

theorem editsIn_congr (h : s.bare = s'.bare) {parts : List Part}
    (forward : ∀ part ∈ parts, part.isForward = true) : s.editsIn parts = s'.editsIn parts := by
  induction parts generalizing s s' with
  | nil => rfl
  | cons part parts ih =>
    obtain ⟨hpart, hparts⟩ := List.forall_mem_cons.mp forward
    rw [editsIn, editsIn, recordedIn_congr h, ih (step_congr hpart h) hparts]

/-! ## One session -/

/-- The session has nothing to redo, and no more to undo than these edits. -/
structure Kept (options : EditorOptions) (edits : List Edit) (s : Session) (r : Snapshots) : Prop where
  inStep : s.InStep options
  linked : s.Linked r
  count : s.history.done.length ≤ edits.length
  bytes : History.held s.history.done ≤ History.held edits
  future : r.future = []

variable {edits : List Edit}

theorem Kept.room (h : s.Kept options edits r) {e : Edit}
    (count : (edits ++ [e]).length ≤ History.maxEdits)
    (bytes : History.held (edits ++ [e]) ≤ History.maxBytes) :
    s.history.done.length + 1 ≤ History.maxEdits ∧
      History.held s.history.done + e.bytes ≤ History.maxBytes := by
  obtain ⟨-, -, hcount, hbytes, -⟩ := h
  have hone : History.held [e] = e.bytes := by simp [History.held]
  rw [List.length_append, List.length_singleton] at count
  rw [History.held_append] at bytes
  omega

theorem Linked.passed_ne_nil (h : s.Linked r) {e : Edit} (joined : s.history.joins e = true) :
    r.passed ≠ [] := by
  obtain ⟨last, rest, hdone, -, -⟩ := History.done_push_of_joins joined
  have hlength := h.past.length_eq
  rw [hdone] at hlength
  intro hnone
  simp only [Snapshots.passed, List.map_eq_nil_iff] at hnone
  rw [hnone] at hlength
  cases hlength

theorem kept_edit (h : s.Kept options edits r) (span : Span) (text : List Char) (intent : Intent)
    (cursor? : Option Nat) :
    let part := Part.edit span text intent cursor?
    let all := edits ++ s.recordedIn part
    all.length ≤ History.maxEdits → History.held all ≤ History.maxBytes →
      (s.step part).Kept options all (r.observe s part) := by
  intro part all count bytes
  have hstep := inStep_step h.inStep part
  have hlinked := linked_step h.inStep h.linked part
  cases hchange : ((span.clamp s.buffer.length).isEmpty && text.isEmpty) with
  | true =>
    have hsame : s.edit span text (some intent) cursor? = (s, false) := edit_unchanged hchange
    have hall : all = edits := by simp [all, part, recordedIn, hsame]
    have hstay : s.step part = s := by simp only [part, step, hsame]
    have hobserve : r.observe s part = r := by
      rw [observe_edit h.inStep, hchange]
      rfl
    rw [hall, hstay, hobserve]
    exact h
  | false =>
    obtain ⟨hdone, -, -, hhistory⟩ := edit_changed (some intent) cursor? hchange
    let e := s.recorded span text intent cursor?
    have hall : all = edits ++ [e] := by simp [all, part, recordedIn, hdone, e]
    rw [hall] at count bytes ⊢
    obtain ⟨hroom, hspace⟩ := h.room count bytes
    have hchanges : e.isEmpty = false :=
      (links_recorded intent cursor? h.linked.inside hchange).isEmpty
    have hpush : (s.step part).history = { s.history with undone := [] }.push e :=
      hhistory.trans (History.record_eq_push h.linked.bounded.counted hchanges hroom hspace)
    refine ⟨hstep, hlinked, ?_, ?_, ?_⟩
    · rw [hpush, List.length_append]
      exact (History.length_push_le _ e).trans (Nat.succ_le_succ h.count)
    · rw [hpush, History.held_append]
      refine (History.held_push_le _ e).trans ?_
      have hbytes := h.bytes
      simp only [History.held, List.map_cons, List.map_nil, List.sum_cons, List.sum_nil] at hbytes ⊢
      omega
    · rw [observe_edit h.inStep, hchange]
      rfl

theorem passed_edit (h : s.Kept options edits r) (span : Span) (text : List Char) (intent : Intent)
    (cursor? : Option Nat) :
    let part := Part.edit span text intent cursor?
    let all := edits ++ s.recordedIn part
    all.length ≤ History.maxEdits → History.held all ≤ History.maxBytes →
      (r.observe s part).passed =
        if (s.edit span text (some intent) cursor?).2 = true ∧
            s.history.joins (s.recorded span text intent cursor?) = false then
          s.snapshot :: r.passed
        else r.passed := by
  intro part all count bytes
  cases hchange : ((span.clamp s.buffer.length).isEmpty && text.isEmpty) with
  | true =>
    have hsame : s.edit span text (some intent) cursor? = (s, false) := edit_unchanged hchange
    rw [observe_edit h.inStep, hchange, hsame]
    rfl
  | false =>
    obtain ⟨hdone, -, -, -⟩ := edit_changed (some intent) cursor? hchange
    have hall : all = edits ++ [s.recorded span text intent cursor?] := by
      simp [all, part, recordedIn, hdone]
    rw [hall] at count bytes
    obtain ⟨hroom, hspace⟩ := h.room count bytes
    have hpast : Trail (·.after) (·.before) s.history.done r.past s.snapshot.text := by
      rw [snapshot_eq h.inStep]
      exact h.linked.past
    have hmatches := matches_recorded h.inStep intent cursor? h.linked.inside hchange
    rw [observe_edit h.inStep, hchange, if_neg Bool.false_ne_true, hdone,
      Snapshots.passed_record h.linked.bounded h.linked.joining hmatches hpast hroom hspace]
    cases s.history.joins (s.recorded span text intent cursor?) <;> simp [memo]

theorem kept_setText (h : s.Kept options edits r) (text : List Char) :
    (s.setText text).Kept options edits (.empty r.joining) :=
  ⟨inStep_setText h.inStep text, linked_setText h.linked text, Nat.zero_le _, Nat.zero_le _, rfl⟩

theorem kept_stepAside (h : s.Kept options edits r) (call : Aside) :
    (s.stepAside call).Kept options edits r := by
  obtain ⟨-, hhistory, -⟩ := stepAside_spec h.linked.inside call
  have hlinked := linked_step h.inStep h.linked (.aside call)
  refine ⟨inStep_stepAside h.inStep call, hlinked, ?_, ?_, h.future⟩
  · rw [hhistory]
    exact h.count
  · rw [hhistory]
    exact h.bytes

/-! ## Two sessions -/

/-- Two sessions of which the first may join edits and the second does not. -/
structure Abreast (options options' : EditorOptions) (edits : List Edit) (s s' : Session)
    (r r' : Snapshots) : Prop where
  same : s.bare = s'.bare
  kept : s.Kept options edits r
  kept' : s'.Kept options' edits r'
  alone : s'.history.joining = false
  grouped : Grouped r.passed r'.passed

theorem joining_step {part : Part} (forward : part.isForward = true)
    (inside : s.cursor ≤ s.buffer.length) : (s.step part).history.joining = s.history.joining := by
  cases part with
  | edit span text intent cursor? =>
    cases hchange : ((span.clamp s.buffer.length).isEmpty && text.isEmpty) with
    | true => rw [step, edit_unchanged hchange]
    | false =>
      obtain ⟨-, -, -, hhistory⟩ := edit_changed (some intent) cursor? hchange
      rw [step, hhistory]
      exact History.joining_record _ _
  | setText text => rfl
  | aside call => rw [step, (stepAside_spec inside call).2.1]
  | undo => cases forward
  | redo => cases forward

theorem abreast_edit (h : Abreast options options' edits s s' r r') (span : Span) (text : List Char)
    (intent : Intent) (cursor? : Option Nat) :
    let part := Part.edit span text intent cursor?
    let all := edits ++ s.recordedIn part
    all.length ≤ History.maxEdits → History.held all ≤ History.maxBytes →
      Abreast options options' all (s.step part) (s'.step part) (r.observe s part)
        (r'.observe s' part) := by
  intro part all count bytes
  have hrecorded : s'.recordedIn part = s.recordedIn part := recordedIn_congr h.same.symm part
  have count' : (edits ++ s'.recordedIn part).length ≤ History.maxEdits := by rwa [hrecorded]
  have bytes' : History.held (edits ++ s'.recordedIn part) ≤ History.maxBytes := by rwa [hrecorded]
  have hkept := kept_edit h.kept span text intent cursor? count bytes
  have hkept' := kept_edit h.kept' span text intent cursor? count' bytes'
  have hpassed := passed_edit h.kept span text intent cursor? count bytes
  have hpassed' := passed_edit h.kept' span text intent cursor? count' bytes'
  rw [hrecorded] at hkept'
  refine ⟨step_congr rfl h.same, hkept, hkept', ?_, ?_⟩
  · rw [joining_step rfl h.kept'.linked.inside]
    exact h.alone
  · have hbare := congrArg snapshot h.same
    have hsnapshot : s.snapshot = s'.snapshot := hbare
    have hchanged : (s.edit span text (some intent) cursor?).2 =
        (s'.edit span text (some intent) cursor?).2 := by
      rw [← (s.bare_edit span text (some intent) cursor?).2, h.same,
        (s'.bare_edit span text (some intent) cursor?).2]
    rw [hpassed, hpassed', hchanged, hsnapshot, History.joins_of_not_joining h.alone]
    -- The second session gets one snapshot more. The first gets the same one, or none when it joins.
    cases hjoin : s.history.joins (s.recorded span text intent cursor?) with
    | false =>
      split
      · exact h.grouped.cons _
      · exact h.grouped
    | true =>
      rw [if_neg (by simp)]
      split
      · exact h.grouped.skip (h.kept.linked.passed_ne_nil hjoin) _
      · exact h.grouped

theorem abreast_step {part : Part} (forward : part.isForward = true)
    (h : Abreast options options' edits s s' r r')
    (count : (edits ++ s.recordedIn part).length ≤ History.maxEdits)
    (bytes : History.held (edits ++ s.recordedIn part) ≤ History.maxBytes) :
    Abreast options options' (edits ++ s.recordedIn part) (s.step part) (s'.step part)
      (r.observe s part) (r'.observe s' part) := by
  have hsame := step_congr forward h.same
  have halone := (joining_step forward h.kept'.linked.inside).trans h.alone
  cases part with
  | edit span text intent cursor? => exact abreast_edit h span text intent cursor? count bytes
  | setText text =>
    rw [show s.recordedIn (.setText text) = [] from rfl, List.append_nil]
    exact ⟨hsame, kept_setText h.kept text, kept_setText h.kept' text, halone, .nil⟩
  | aside call =>
    rw [show s.recordedIn (.aside call) = [] from rfl, List.append_nil]
    exact ⟨hsame, kept_stepAside h.kept call, kept_stepAside h.kept' call, halone, h.grouped⟩
  | undo => cases forward
  | redo => cases forward

theorem exists_abreast_steps {parts : List Part} (forward : ∀ part ∈ parts, part.isForward = true)
    (h : Abreast options options' edits s s' r r')
    (count : (edits ++ s.editsIn parts).length ≤ History.maxEdits)
    (bytes : History.held (edits ++ s.editsIn parts) ≤ History.maxBytes) :
    ∃ t t', Abreast options options' (edits ++ s.editsIn parts) (s.steps parts) (s'.steps parts)
      t t' := by
  induction parts generalizing edits s s' r r' with
  | nil =>
    rw [editsIn, List.append_nil]
    exact ⟨r, r', h⟩
  | cons part parts ih =>
    obtain ⟨hpart, hparts⟩ := List.forall_mem_cons.mp forward
    rw [editsIn, ← List.append_assoc] at count bytes ⊢
    refine ih hparts (abreast_step hpart h ?_ ?_) count bytes
    · rw [List.length_append] at count
      omega
    · rw [History.held_append] at bytes
      omega

/-! ## With and without joining -/

/-- The session when edits are joined, or when they are not. -/
def withJoining (s : Session) (joining : Bool) : Session :=
  { s with
    options := { s.options with joinTyping := joining }
    history := { s.history with joining := joining } }

theorem kept_withJoining (h : s.Settled options) (done : s.history.done = [])
    (undone : s.history.undone = []) (joining : Bool) :
    (s.withJoining joining).Kept { options with joinTyping := joining } [] (.empty joining) := by
  obtain ⟨hstep, ⟨r, hlinked⟩, -⟩ := h
  have hbounded := hlinked.bounded
  refine ⟨⟨⟨hstep.text, hstep.sound, hstep.uniform, hstep.kept, ?_, hstep.base, hstep.colors⟩,
    hstep.idle, hstep.painted⟩, ⟨hlinked.inside, rfl, ?_, ?_, ?_⟩, ?_, ?_, rfl⟩
  · show { s.options with joinTyping := joining } = { options with joinTyping := joining }
    rw [hstep.fixed]
  · show Trail _ _ s.history.done [] _
    rw [done]
    exact .nil
  · show Trail _ _ s.history.undone [] _
    rw [undone]
    exact .nil
  · exact ⟨hbounded.counted, hbounded.count, hbounded.bytes⟩
  · show s.history.done.length ≤ 0
    rw [done]
    exact le_rfl
  · show History.held s.history.done ≤ 0
    rw [done]
    exact le_rfl

/-- From an empty history on, as long as no undo and no redo comes between and all edits are within the
limits. -/
theorem joined_undos_group_single_undos (library : Library) (disk : Disk) (options : EditorOptions)
    (before actions : List Action) :
    let s := (start library disk options).run before
    let parts := s.allParts actions
    let joined := (s.withJoining true).run actions
    let single := (s.withJoining false).run actions
    s.history.done = [] → s.history.undone = [] → (∀ part ∈ parts, part.isForward = true) →
    (s.editsIn parts).length ≤ History.maxEdits →
    History.held (s.editsIn parts) ≤ History.maxBytes →
      (joined.text = single.text ∧ joined.display.runs = single.display.runs ∧
        joined.cursor = single.cursor) ∧
      Grouped joined.undoAll.1 single.undoAll.1 ∧
      joined.undoAll.2.redoAll.2.text = joined.text ∧
      single.undoAll.2.redoAll.2.text = joined.text := by
  intro s parts joined single done undone forward count bytes
  have hsettled : s.Settled options := settled_run library disk options before
  have hbare : ∀ joining, s.bare = (s.withJoining joining).bare := fun _ => rfl
  -- Both sessions take the actions apart in the same way.
  have hrun : ∀ joining,
      (s.withJoining joining).steps parts = (s.withJoining joining).run actions := by
    intro joining
    rw [← steps_allParts (s.withJoining joining) actions, ← allParts_congr (hbare joining) forward]
  have hedits : (s.withJoining true).editsIn parts = s.editsIn parts :=
    editsIn_congr (hbare true).symm forward
  have hstart : Abreast { options with joinTyping := true } { options with joinTyping := false } []
      (s.withJoining true) (s.withJoining false) (.empty true) (.empty false) :=
    ⟨rfl, kept_withJoining hsettled done undone true, kept_withJoining hsettled done undone false, rfl,
      .nil⟩
  obtain ⟨r, r', hend⟩ := exists_abreast_steps forward hstart (by rwa [hedits]) (by rwa [hedits])
  rw [hrun, hrun] at hend
  obtain ⟨hsame, hkept, hkept', -, hgrouped⟩ := hend
  have hdisplay : joined.display = single.display := by
    have hbare := congrArg display hsame
    exact hbare
  have hcursor : joined.cursor = single.cursor := by
    have hbare := congrArg cursor hsame
    exact hbare
  have htext : joined.text = single.text := congrArg StyledText.text hdisplay
  refine ⟨⟨htext, congrArg StyledText.runs hdisplay, hcursor⟩, ?_, ?_, ?_⟩
  · rw [(undoAll_spec hkept.inStep hkept.linked).1, (undoAll_spec hkept'.inStep hkept'.linked).1]
    exact hgrouped
  · exact text_redoAll_undoAll hkept.inStep hkept.linked hkept.future
  · rw [htext]
    exact text_redoAll_undoAll hkept'.inStep hkept'.linked hkept'.future

theorem joined_undos_group_single_undos_typing :
    let s := start default default .standard
    let actions : List Action := [.execute (.insertText ['a']), .execute (.insertText ['b']),
      .aside (.setCursor 0), .execute (.insertText ['≠']), .aside (.tick 9000),
      .execute (.insertText ['c'])]
    let joined := (s.withJoining true).run actions
    let single := (s.withJoining false).run actions
    joined.history.done.length = 3 ∧ single.history.done.length = 4 ∧
      Grouped joined.undoAll.1 single.undoAll.1 := by
  intro s actions joined single
  have forward : ∀ part ∈ s.allParts actions, part.isForward = true := by decide
  have count : (s.editsIn (s.allParts actions)).length ≤ History.maxEdits := by decide
  have bytes : History.held (s.editsIn (s.allParts actions)) ≤ History.maxBytes := by decide
  obtain ⟨-, hgrouped, -⟩ := joined_undos_group_single_undos default default .standard [] actions
    rfl rfl forward count bytes
  exact ⟨by decide, by decide, hgrouped⟩

end Session

end CodeEditor
