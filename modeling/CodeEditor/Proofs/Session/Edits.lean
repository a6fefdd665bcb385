import CodeEditor.Proofs.History.Limits
import CodeEditor.Proofs.Session.Joining

/-! # Edits one by one

An edit puts a text in place of a piece of the text. While it is among the last ones and within the
limits, an undo brings back the text and the cursor from before it.
-/

namespace CodeEditor

namespace Buffer

theorem text_eq_slice {b : Buffer} {span : Span} (ordered : span.start ≤ span.stop) :
    b.text = b.text.take span.start ++ b.slice span ++ b.text.drop span.stop := by
  rw [slice, List.drop_take, ← List.take_add, Nat.add_sub_cancel' ordered, List.take_append_drop]

theorem length_slice {b : Buffer} {span : Span} (within : span.stop ≤ b.length) :
    (b.slice span).length = span.stop - span.start := by
  simp only [slice, length, List.length_drop, List.length_take] at within ⊢
  omega

end Buffer

namespace History

/-! ## What stays in the history -/

theorem prefix_record {h : History} (bounded : h.Bounded) (alone : h.joining = false) {e : Edit}
    (changes : e.isEmpty = false) {others : List Edit} (last : others <+: h.done)
    (within : Within (e :: others)) : e :: others <+: (h.record e).done := by
  have hextended : h.extended e = e :: h.done := by
    rw [← done_push, done_push_of_not_joins (joins_of_not_joining alone e)]
  have hlongest := (recorded_record bounded changes).done
  rw [hextended] at hlongest
  have hprefix : e :: others <+: e :: h.done := (List.prefix_cons_inj e).mpr last
  exact List.prefix_of_prefix_length_le hprefix hlongest.last (hlongest.longest _ hprefix within)

end History

namespace Session

variable {options : EditorOptions} {s : Session}

/-! ## Joining is not switched on or off -/

theorem joining_applyStep (s : Session) (h : History) (r : Replacement) :
    (s.applyStep (some (h, r))).1.history.joining = h.joining := by
  unfold applyStep
  simp only
  rw [history_edit_none]

theorem joining_undo (s : Session) : s.undo.1.history.joining = s.history.joining := by
  unfold undo History.undo?
  split
  · rfl
  · rw [joining_applyStep]

theorem joining_redo (s : Session) : s.redo.1.history.joining = s.history.joining := by
  unfold redo History.redo?
  split
  · rfl
  · rw [joining_applyStep, History.joining_trim]

theorem joining_run (library : Library) (disk : Disk) (options : EditorOptions)
    (actions : List Action) :
    ((start library disk options).run actions).history.joining = options.joinTyping := by
  have hrun : ((start library disk options).run actions).Settled options ∧
      ((start library disk options).run actions).history.joining = options.joinTyping := by
    apply run_induction (P := fun s => s.Settled options ∧ s.history.joining = options.joinTyping)
    · rintro s part ⟨hsettled, hjoining⟩
      refine ⟨settled_step hsettled part, ?_⟩
      rw [← hjoining]
      obtain ⟨r, hlinked⟩ := hsettled.linked
      cases part with
      | undo => exact joining_undo s
      | redo => exact joining_redo s
      | _ => exact joining_step rfl hlinked.inside
    · exact ⟨settled_run library disk options [], rfl⟩
  exact hrun.2

/-! ## Edits -/

/-- One edit leads from `s` to `s'`, and it is recorded with so many bytes. -/
structure LeadsTo (s s' : Session) (text : List Char) (cursor bytes : Nat) : Prop where
  shown : s'.buffer.text = text
  placed : s'.cursor = cursor
  recorded : ∃ e : Edit, s'.history = s.history.record e ∧ e.bytes = bytes ∧
    e.Links ⟨⟨s.buffer.text, s.cursor⟩, ⟨text, cursor⟩⟩

variable {before old after text : List Char}

theorem edit_leadsTo (inside : s.cursor ≤ s.buffer.length)
    (htext : s.buffer.text = before ++ old ++ after) (something : ¬ (old = [] ∧ text = []))
    (intent : Intent) (cursor? : Option Nat) :
    let edited := s.edit ⟨before.length, before.length + old.length⟩ text (some intent) cursor?
    edited.2 = true ∧ s.LeadsTo edited.1 (before ++ text ++ after)
      (min (cursor?.getD (before.length + text.length)) (before ++ text ++ after).length)
      (Text.byteLength old + Text.byteLength text) := by
  generalize hspan : (⟨before.length, before.length + old.length⟩ : Span) = span
  have hclamp : span.clamp s.buffer.length = span := by
    subst hspan
    apply Span.clamp_eq_self
    · exact Nat.le_add_right _ _
    · simp only [Buffer.length, htext, List.length_append]
      omega
  have hchange : ((span.clamp s.buffer.length).isEmpty && text.isEmpty) = false := by
    rw [hclamp, Bool.eq_false_iff, ← hspan]
    intro hnone
    simp only [Bool.and_eq_true, Span.isEmpty, decide_eq_true_iff, List.isEmpty_iff] at hnone
    exact something ⟨List.eq_nil_of_length_eq_zero (by omega), hnone.2⟩
  have hreplace : (s.buffer.replace span text).text = before ++ text ++ after := by
    rw [Buffer.replace, hclamp, htext, ← hspan]
    simp
  have hold : s.buffer.slice span = old := by
    rw [Buffer.slice, htext, ← hspan, ← List.length_append, List.take_left, List.drop_left]
  obtain ⟨hdone, hbuffer, hcursor, hhistory⟩ := edit_changed (some intent) cursor? hchange
  have hlinks := links_recorded intent cursor? inside hchange
  have hstart : span.start = before.length := by rw [← hspan]
  rw [hclamp, Buffer.length, hreplace, hstart] at hcursor
  rw [hclamp] at hbuffer
  simp only [hcursor, hbuffer, hreplace] at hlinks
  refine ⟨hdone, ?_, hcursor, _, hhistory, ?_, hlinks⟩
  · rw [hbuffer, hreplace]
  · simp only [recorded, hclamp, Edit.bytes, hold]

theorem edit_span_leadsTo {span : Span} (inside : s.cursor ≤ s.buffer.length)
    (ordered : span.start ≤ span.stop) (within : span.stop ≤ s.buffer.length)
    (something : ¬ (s.buffer.slice span = [] ∧ text = [])) (intent : Intent) :
    (s.edit span text (some intent) none).2 = true ∧
      s.LeadsTo (s.edit span text (some intent) none).1
        (s.buffer.text.take span.start ++ text ++ s.buffer.text.drop span.stop)
        (span.start + text.length)
        (Text.byteLength (s.buffer.slice span) + Text.byteLength text) := by
  have hstart : (s.buffer.text.take span.start).length = span.start := by
    simp only [List.length_take, Buffer.length] at within ⊢
    omega
  have hleads := edit_leadsTo inside (Buffer.text_eq_slice ordered) something intent none
  rw [hstart, Buffer.length_slice within, Nat.add_sub_cancel' ordered, Option.getD_none,
    List.length_append, List.length_append, hstart, min_eq_left (Nat.le_add_right _ _)] at hleads
  exact hleads

theorem editSpan_within (h : s.selection.Within s.buffer.length) :
    s.selection.editSpan.start ≤ s.selection.editSpan.stop ∧
      s.selection.editSpan.stop ≤ s.buffer.length := by
  unfold Selection.editSpan
  cases hspan : s.selection.span? with
  | none => exact ⟨le_rfl, h.cursor⟩
  | some span => exact ⟨(Selection.start_lt_stop hspan).le, (h.span? hspan).2⟩

/-! ## Undos -/

theorem undo_links {e : Edit} {es : List Edit} {p : Passage} (hdone : s.history.done = e :: es)
    (links : e.Links p) (here : s.buffer.text = p.after.text) :
    s.undo.2 = true ∧ s.undo.1.buffer.text = p.before.text ∧ s.undo.1.cursor = p.before.cursor ∧
      s.undo.1.history.done = es := by
  have leads := Edit.leads_backward links
  rw [← here] at leads
  obtain ⟨hmoved, htext, hcursor, hhistory⟩ := applyStep_leads
    (h := { s.history with
      done := es, undone := e :: s.history.undone, bytes := s.history.bytes - e.bytes }) leads
  rw [undo, History.undo?_cons hdone]
  exact ⟨hmoved, htext, hcursor, by rw [hhistory]⟩

variable {s₁ s₂ : Session} {text₁ text₂ : List Char} {cursor₁ cursor₂ bytes₁ bytes₂ : Nat}

theorem LeadsTo.prefix_done (bounded : s.history.Bounded) (alone : s.history.joining = false)
    (leads : s.LeadsTo s₁ text₁ cursor₁ bytes₁) {others : List Edit} (last : others <+: s.history.done)
    (few : others.length < History.maxEdits)
    (fits : bytes₁ + History.held others ≤ History.maxBytes) :
    ∃ e : Edit, e :: others <+: s₁.history.done ∧ e.bytes = bytes₁ ∧
      e.Links ⟨⟨s.buffer.text, s.cursor⟩, ⟨text₁, cursor₁⟩⟩ := by
  obtain ⟨e, hhistory, hbytes, hlinks⟩ := leads.recorded
  refine ⟨e, ?_, hbytes, hlinks⟩
  rw [hhistory]
  apply History.prefix_record bounded alone hlinks.isEmpty last
  refine ⟨few, ?_⟩
  rw [History.held, List.map_cons, List.sum_cons, hbytes]
  exact fits

theorem undo_leadsTo (bounded : s.history.Bounded) (alone : s.history.joining = false)
    (leads : s.LeadsTo s₁ text₁ cursor₁ bytes₁) (fits : bytes₁ ≤ History.maxBytes) :
    s₁.undo.2 = true ∧ s₁.undo.1.buffer.text = s.buffer.text ∧ s₁.undo.1.cursor = s.cursor := by
  obtain ⟨e, ⟨rest, hdone⟩, -, hlinks⟩ :=
    leads.prefix_done bounded alone List.nil_prefix (by decide) fits
  obtain ⟨hundone, htext, hcursor, -⟩ := undo_links hdone.symm hlinks leads.shown
  exact ⟨hundone, htext, hcursor⟩

theorem undo_undo_leadsTo (bounded : s.history.Bounded) (alone : s.history.joining = false)
    (first : s.LeadsTo s₁ text₁ cursor₁ bytes₁) (second : s₁.LeadsTo s₂ text₂ cursor₂ bytes₂)
    (fits : bytes₁ + bytes₂ ≤ History.maxBytes) :
    (s₂.undo.2 = true ∧ s₂.undo.1.buffer.text = text₁ ∧ s₂.undo.1.cursor = cursor₁) ∧
      (s₂.undo.1.undo.2 = true ∧ s₂.undo.1.undo.1.buffer.text = s.buffer.text ∧
        s₂.undo.1.undo.1.cursor = s.cursor) := by
  obtain ⟨e₁, hone, hbytes₁, hlinks₁⟩ := first.prefix_done bounded alone List.nil_prefix (by decide)
    (Nat.le_trans (Nat.le_add_right _ _) fits)
  have hsecond : s₁.history.Bounded ∧ s₁.history.joining = false := by
    obtain ⟨e, hhistory, -⟩ := first.recorded
    rw [hhistory]
    exact ⟨History.bounded_record bounded e, (History.joining_record s.history e).trans alone⟩
  have hheld : bytes₂ + History.held [e₁] ≤ History.maxBytes := by
    simp only [History.held, List.map_cons, List.map_nil, List.sum_cons, List.sum_nil]
    omega
  obtain ⟨e₂, ⟨rest, hdone⟩, -, hlinks₂⟩ :=
    second.prefix_done hsecond.1 hsecond.2 hone (by simp [History.maxEdits]) hheld
  obtain ⟨hundone₂, htext₂, hcursor₂, hleft⟩ := undo_links hdone.symm hlinks₂ second.shown
  have here : s₂.undo.1.buffer.text = text₁ := htext₂.trans first.shown
  obtain ⟨hundone₁, htext₁, hcursor₁, -⟩ := undo_links hleft hlinks₁ here
  exact ⟨⟨hundone₂, here, hcursor₂.trans first.placed⟩, hundone₁, htext₁, hcursor₁⟩

end Session

end CodeEditor
