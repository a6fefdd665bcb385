import CodeEditor.History
import Mathlib.Algebra.GroupWithZero.Nat
import Mathlib.Tactic.Common

/-! # Histories

A history keeps what was deleted and inserted. Each edit leads from the snapshot just before it to the
one right after it, and all edits together stay within the limits.
-/

namespace CodeEditor

/-! ## Snapshots -/

/-- A text, and where the cursor is in it. -/
structure Snapshot where
  text : List Char
  cursor : Nat
  deriving DecidableEq, Repr

/-- What held just before something was done, and right after it. -/
structure Passage where
  before : Snapshot
  after : Snapshot
  deriving DecidableEq, Repr

/-! ## Edits and snapshots -/

/-- A replacement leads from a text to a snapshot, and there is something to do on the way. -/
structure Replacement.Leads (r : Replacement) (text : List Char) (s : Snapshot) : Prop where
  texts : ∃ before old after, text = before ++ old ++ after ∧
    r.span = ⟨before.length, before.length + old.length⟩ ∧ s.text = before ++ r.text ++ after ∧
    ¬ (old = [] ∧ r.text = [])
  cursor : s.cursor = r.cursor
  inside : s.cursor ≤ s.text.length

namespace Edit

/-- The edit leads through a passage. -/
structure Links (e : Edit) (p : Passage) : Prop where
  texts : ∃ before after, before.length = e.start ∧
    p.before.text = before ++ e.deleted ++ after ∧ p.after.text = before ++ e.inserted ++ after
  cursorBefore : p.before.cursor = e.cursorBefore
  cursorAfter : p.after.cursor = e.cursorAfter
  inBefore : p.before.cursor ≤ p.before.text.length
  inAfter : p.after.cursor ≤ p.after.text.length
  changes : ¬ (e.deleted = [] ∧ e.inserted = [])

theorem Links.isEmpty {e : Edit} {p : Passage} (h : e.Links p) : e.isEmpty = false := by
  rw [Edit.isEmpty, Bool.eq_false_iff]
  simpa using h.changes

theorem leads_backward {e : Edit} {p : Passage} (h : e.Links p) :
    e.backward.Leads p.after.text p.before := by
  obtain ⟨before, after, hstart, hbefore, hafter⟩ := h.texts
  refine ⟨⟨before, e.inserted, after, hafter, ?_, hbefore, ?_⟩, h.cursorBefore, h.inBefore⟩
  · rw [backward, hstart]
  · rw [and_comm]
    exact h.changes

theorem leads_forward {e : Edit} {p : Passage} (h : e.Links p) :
    e.forward.Leads p.before.text p.after := by
  obtain ⟨before, after, hstart, hbefore, hafter⟩ := h.texts
  refine ⟨⟨before, e.deleted, after, hbefore, ?_, hafter, h.changes⟩, h.cursorAfter, h.inAfter⟩
  rw [forward, hstart]

theorem links_join {last e : Edit} {p q : Passage} (hlast : last.Links p) (he : e.Links q)
    (meets : p.after.text = q.before.text) (h : last.continuedBy e) :
    (last.join e).Links ⟨p.before, q.after⟩ := by
  simp only [continuedBy, Bool.and_eq_true, beq_iff_eq, List.isEmpty_iff] at h
  obtain ⟨⟨⟨-, hdeleted⟩, hnone⟩, hstart⟩ := h
  obtain ⟨before, after, hbefore, htext, hmiddle⟩ := hlast.texts
  obtain ⟨before', after', hbefore', hmiddle', hafter⟩ := he.texts
  -- The second insertion starts where the first one ended.
  have hmeet : (before ++ last.inserted) ++ after = before' ++ after' := by
    rw [← hmiddle, meets, hmiddle', hnone, List.append_nil]
  obtain ⟨rfl, rfl⟩ := List.append_inj hmeet (by simp [hbefore', hstart, hbefore])
  refine ⟨⟨before, after, hbefore, htext, ?_⟩, hlast.cursorBefore, he.cursorAfter, hlast.inBefore,
    he.inAfter, ?_⟩
  · rw [hafter, join]
    simp
  · rintro ⟨-, hinserted⟩
    rw [join] at hinserted
    exact he.changes ⟨hnone, (List.append_eq_nil_iff.mp hinserted).2⟩

end Edit

namespace History

/-! ## Limits -/

/-- How many bytes of text some edits hold. -/
def held (es : List Edit) : Nat := (es.map Edit.bytes).sum

theorem exceeds_eq_false (count bytes : Nat) :
    exceeds count bytes = false ↔ count ≤ maxEdits ∧ bytes ≤ maxBytes := by
  simp [exceeds]

/-- The history counts its bytes, and all its edits together are within the limits. -/
structure Bounded (h : History) : Prop where
  counted : h.bytes = held h.done
  count : h.done.length + h.undone.length ≤ maxEdits
  bytes : held h.done + held h.undone ≤ maxBytes

theorem bounded_new (joining : Bool) : (new joining).Bounded :=
  ⟨rfl, Nat.zero_le _, Nat.zero_le _⟩

theorem dropOldest_eq (es : List Edit) :
    ∃ n, dropOldest es.length (held es) es = (es.drop n, held (es.drop n)) ∧
      exceeds (es.drop n).length (held (es.drop n)) = false := by
  induction es with
  | nil => exact ⟨0, rfl, rfl⟩
  | cons e es ih =>
    rw [dropOldest]
    split
    · obtain ⟨n, hdrop, hwithin⟩ := ih
      refine ⟨n + 1, ?_, hwithin⟩
      rw [List.drop_succ_cons, ← hdrop]
      simp [held]
    · next hwithin => exact ⟨0, rfl, by simpa using hwithin⟩

/-- Only the oldest edits are dropped, and as many as it takes. -/
theorem trim_eq {h : History} (counted : h.bytes = held h.done) :
    ∃ n, h.trim = { h with done := h.done.take n, bytes := held (h.done.take n) } ∧
      (h.done.take n).length ≤ maxEdits ∧ held (h.done.take n) ≤ maxBytes := by
  have hreverse : ∀ es : List Edit, held es.reverse = held es := fun es => by simp [held]
  simp only [← exceeds_eq_false]
  rw [trim]
  split
  · obtain ⟨n, hdrop, hwithin⟩ := dropOldest_eq h.done.reverse
    rw [List.length_reverse, hreverse, ← counted] at hdrop
    rw [List.drop_reverse, List.length_reverse, hreverse] at hwithin
    refine ⟨h.done.length - n, ?_, hwithin⟩
    rw [hdrop, List.drop_reverse, hreverse]
    simp only [List.reverse_reverse]
  · next hwithin =>
    refine ⟨h.done.length, ?_, ?_⟩
    · rw [List.take_length, ← counted]
    · rw [List.take_length, ← counted]
      simpa using hwithin

theorem trim_eq_self {h : History} (count : h.done.length ≤ maxEdits) (bytes : h.bytes ≤ maxBytes) :
    h.trim = h := by
  rw [trim, (exceeds_eq_false _ _).mpr ⟨count, bytes⟩]
  rfl

/-! ## Recording -/

/-- The edit is joined to the last one. -/
def joins (h : History) (e : Edit) : Bool :=
  match h.done with
  | [] => false
  | last :: _ => h.joining && last.continuedBy e

theorem done_push_of_joins {h : History} {e : Edit} (joined : h.joins e = true) :
    ∃ last rest, h.done = last :: rest ∧ last.continuedBy e = true ∧
      (h.push e).done = last.join e :: rest := by
  rcases h with ⟨joining, _ | ⟨last, rest⟩, undone, bytes⟩
  · cases joined
  · simp only [joins] at joined
    refine ⟨last, rest, rfl, (Bool.and_eq_true_iff.mp joined).2, ?_⟩
    simp only [push, joined, if_true]

theorem done_push_of_not_joins {h : History} {e : Edit} (alone : h.joins e = false) :
    (h.push e).done = e :: h.done := by
  rcases h with ⟨joining, _ | ⟨last, rest⟩, undone, bytes⟩
  · rfl
  · simp only [joins] at alone
    simp only [push, alone, Bool.false_eq_true, if_false]

theorem counted_push {h : History} (counted : h.bytes = held h.done) (e : Edit) :
    (h.push e).bytes = held (h.push e).done := by
  rw [push]
  split
  · next last rest hdone =>
    rw [hdone] at counted
    split
    · simp only [counted, held, List.map_cons, List.sum_cons]
      omega
    · simp only [hdone, counted, held, List.map_cons, List.sum_cons]
      omega
  · next hdone => simp [hdone, counted, held]

theorem record_eq {h : History} (counted : h.bytes = held h.done) {e : Edit}
    (changes : e.isEmpty = false) :
    ∃ n, (h.record e).done = ({ h with undone := [] }.push e).done.take n ∧
      (h.record e).undone = [] ∧ (h.record e).Bounded := by
  obtain ⟨n, htrim, hcount, hbytes⟩ := trim_eq (counted_push (h := { h with undone := [] }) counted e)
  have hundone : ({ h with undone := [] }.push e).undone = [] := by
    rw [push]
    split
    · split <;> rfl
    · rfl
  rw [record, changes, if_neg Bool.false_ne_true, htrim]
  refine ⟨n, rfl, hundone, rfl, ?_, ?_⟩
  · simp only [hundone]
    exact hcount
  · simp only [hundone]
    exact hbytes

theorem joining_push (h : History) (e : Edit) : (h.push e).joining = h.joining := by
  unfold push
  split
  · split <;> rfl
  · rfl

theorem joining_trim (h : History) : h.trim.joining = h.joining := by
  unfold trim
  split <;> rfl

theorem joining_record (h : History) (e : Edit) : (h.record e).joining = h.joining := by
  unfold record
  split
  · rfl
  · rw [joining_trim, joining_push]

/-! ## Undo and redo -/

theorem undo?_cons {h : History} {e : Edit} {es : List Edit} (hdone : h.done = e :: es) :
    h.undo? =
      some ({ h with done := es, undone := e :: h.undone, bytes := h.bytes - e.bytes }, e.backward) := by
  rw [undo?, hdone]

theorem bounded_undo {h : History} {e : Edit} {es : List Edit} (bounded : h.Bounded)
    (hdone : h.done = e :: es) :
    Bounded { h with done := es, undone := e :: h.undone, bytes := h.bytes - e.bytes } := by
  obtain ⟨counted, count, bytes⟩ := bounded
  rw [hdone] at counted count bytes
  simp only [held, List.map_cons, List.sum_cons, List.length_cons] at counted count bytes
  constructor
  · simp only [held]
    omega
  · simp only [List.length_cons]
    omega
  · simp only [held, List.map_cons, List.sum_cons]
    omega

theorem bounded_redo {h : History} {e : Edit} {es : List Edit} (bounded : h.Bounded)
    (hundone : h.undone = e :: es) :
    Bounded { h with done := e :: h.done, undone := es, bytes := h.bytes + e.bytes } := by
  obtain ⟨counted, count, bytes⟩ := bounded
  rw [hundone] at count bytes
  simp only [held, List.map_cons, List.sum_cons, List.length_cons] at counted count bytes
  constructor
  · simp only [held, List.map_cons, List.sum_cons]
    omega
  · simp only [List.length_cons]
    omega
  · simp only [held, List.map_cons, List.sum_cons]
    omega

theorem redo?_cons {h : History} {e : Edit} {es : List Edit} (bounded : h.Bounded)
    (hundone : h.undone = e :: es) :
    h.redo? =
      some ({ h with done := e :: h.done, undone := es, bytes := h.bytes + e.bytes }, e.forward) := by
  obtain ⟨counted, count, bytes⟩ := bounded_redo bounded hundone
  simp only at counted count bytes
  rw [redo?, hundone]
  simp only
  rw [trim_eq_self]
  · simp only
    omega
  · simp only
    omega

end History

end CodeEditor
