import CodeEditor.Proofs.History.Limits

/-! # Histories and snapshots

An editor that keeps whole snapshots has a rule of its own for what is undone together and for how much
is kept. A history of edits that has seen the same comes to the same: its edits lead through the
snapshots one behind the other.
-/

namespace CodeEditor

/-! ## Snapshots -/

/-- A passage as it is remembered. -/
structure Memo extends Passage where
  /-- How many bytes of text were taken out and put in. -/
  bytes : Nat
  /-- Where text was put in, if it was typed and nothing was taken out. -/
  typed? : Option Span
  /-- When that was, in milliseconds. -/
  time : Nat
  deriving DecidableEq, Repr

namespace Memo

/-- `next` was typed right behind `m`, no more than 750 milliseconds later. -/
def goesOn (m next : Memo) : Bool :=
  match m.typed?, next.typed? with
  | some s, some t => t.start == s.stop && next.time - m.time ≤ 750
  | _, _ => false

def join (m next : Memo) : Memo where
  before := m.before
  after := next.after
  bytes := m.bytes + next.bytes
  typed? := m.typed?.bind fun s => next.typed?.map fun t => ⟨s.start, t.stop⟩
  time := next.time

end Memo

/-- The first entries of a list, no more than `count` of them and only up to `room` bytes. -/
def recent {α : Type} (bytes : α → Nat) : Nat → Nat → List α → List α
  | 0, _, _ => []
  | _ + 1, _, [] => []
  | count + 1, room, x :: xs =>
    if bytes x ≤ room then x :: recent bytes count (room - bytes x) xs else []

theorem prefix_recent {α : Type} (bytes : α → Nat) (count room : Nat) (xs : List α) :
    recent bytes count room xs <+: xs := by
  fun_induction recent bytes count room xs with
  | case1 => exact List.nil_prefix
  | case2 => exact List.nil_prefix
  | case3 room x xs count hroom ih => exact List.cons_prefix_cons.mpr ⟨rfl, ih⟩
  | case4 => exact List.nil_prefix

/-- An editor's memory that keeps whole snapshots. -/
structure Snapshots where
  /-- What is typed in one go is undone together. -/
  joining : Bool
  /-- What can be undone, last one first. -/
  past : List Memo
  /-- What has been undone, last one first. -/
  future : List Memo
  deriving DecidableEq, Repr

namespace Snapshots

def empty (joining : Bool) : Snapshots := ⟨joining, [], []⟩

/-- The past with one memo more, or with the last one going on. -/
def extended (r : Snapshots) (m : Memo) : List Memo :=
  match r.past with
  | last :: rest => if r.joining && last.goesOn m then last.join m :: rest else m :: last :: rest
  | [] => [m]

/-- Remembers something that was done. The last 500 of them are kept as long as they hold no more than
8 MiB of text, and there is no future any more. -/
def record (r : Snapshots) (m : Memo) : Snapshots :=
  { r with past := recent Memo.bytes 500 (8 * 1024 * 1024) (r.extended m), future := [] }

def undo (r : Snapshots) : Snapshots :=
  match r.past with
  | [] => r
  | m :: past => { r with past := past, future := m :: r.future }

def redo (r : Snapshots) : Snapshots :=
  match r.future with
  | [] => r
  | m :: future => { r with past := m :: r.past, future := future }

def undone? (r : Snapshots) : Option Snapshot := r.past.head?.map (·.before)

def redone? (r : Snapshots) : Option Snapshot := r.future.head?.map (·.after)

end Snapshots

/-! ## Edits and memos -/

namespace Edit

/-- The edit leads through the passage, and what is remembered of it is true. -/
structure Matches (e : Edit) (m : Memo) : Prop extends e.Links m.toPassage where
  bytes : m.bytes = e.bytes
  typed : m.typed? =
    if e.intent = .insert ∧ e.deleted = [] then some ⟨e.start, e.start + e.inserted.length⟩ else none
  time : m.time = e.time

variable {e next : Edit} {m n : Memo}

theorem continuedBy_eq (hm : e.Matches m) (hn : next.Matches n) : e.continuedBy next = m.goesOn n := by
  rw [Bool.eq_iff_iff]
  unfold continuedBy Memo.goesOn
  rw [hm.typed, hn.typed, hm.time, hn.time, joinWindow]
  by_cases he : e.intent = .insert ∧ e.deleted = []
  · by_cases hnext : next.intent = .insert ∧ next.deleted = []
    · simp [he, hnext, and_comm]
    · simp only [if_pos he, if_neg hnext]
      simp only [Bool.and_eq_true, beq_iff_eq, List.isEmpty_iff, Bool.false_eq_true, iff_false]
      tauto
  · simp only [if_neg he]
    simp only [Bool.and_eq_true, beq_iff_eq, List.isEmpty_iff, Bool.false_eq_true, iff_false]
    tauto

theorem matches_join (hm : e.Matches m) (hn : next.Matches n) (meets : m.after.text = n.before.text)
    (continued : e.continuedBy next) : (e.join next).Matches (m.join n) := by
  have hlinks := links_join hm.toLinks hn.toLinks meets continued
  simp only [continuedBy, Bool.and_eq_true, beq_iff_eq, List.isEmpty_iff] at continued
  obtain ⟨⟨⟨⟨⟨hinsert, hinsert'⟩, -⟩, hdeleted⟩, hdeleted'⟩, hstart⟩ := continued
  refine ⟨hlinks, ?_, ?_, hn.time⟩
  · simp only [Memo.join, hm.bytes, hn.bytes, Edit.bytes, join, hdeleted', Text.byteLength_append]
    simp only [Text.byteLength_nil]
    omega
  · simp only [Memo.join, hm.typed, hn.typed, hinsert, hinsert', hdeleted, hdeleted', join, hstart]
    simp [Nat.add_assoc]

end Edit

/-- The edits lead through the passages one behind the other, from a text on. Each passage is entered
at its near end. -/
inductive Trail (near far : Memo → Snapshot) : List Edit → List Memo → List Char → Prop
  | nil {text : List Char} : Trail near far [] [] text
  | cons {e : Edit} {m : Memo} {es : List Edit} {ms : List Memo} {text : List Char}
      (links : e.Matches m) (here : (near m).text = text) (rest : Trail near far es ms (far m).text) :
      Trail near far (e :: es) (m :: ms) text

namespace Trail

variable {near far : Memo → Snapshot} {es : List Edit} {ms : List Memo} {text : List Char}

theorem length_eq (h : Trail near far es ms text) : es.length = ms.length := by
  induction h with
  | nil => rfl
  | cons _ _ _ ih => simp [ih]

/-- Edits and memos hold the same bytes, so the same ones are kept. -/
theorem recent (h : Trail near far es ms text) (count room : Nat) :
    Trail near far (recent Edit.bytes count room es) (recent Memo.bytes count room ms) text := by
  induction h generalizing count room with
  | nil => cases count <;> exact .nil
  | cons links here rest ih =>
    cases count with
    | zero => exact .nil
    | succ count =>
      rw [CodeEditor.recent, CodeEditor.recent, links.bytes]
      split
      · exact .cons links here (ih count _)
      · exact .nil

end Trail

namespace History

/-! ## What is kept -/

theorem recent_within (count room : Nat) (es : List Edit) :
    (recent Edit.bytes count room es).length ≤ count ∧
      held (recent Edit.bytes count room es) ≤ room := by
  fun_induction recent Edit.bytes count room es with
  | case1 => exact ⟨Nat.le_refl _, Nat.zero_le _⟩
  | case2 => exact ⟨Nat.zero_le _, Nat.zero_le _⟩
  | case3 room e es count hroom ih =>
    obtain ⟨hcount, hheld⟩ := ih
    simp only [held, List.map_cons, List.sum_cons, List.length_cons] at hheld ⊢
    omega
  | case4 => exact ⟨Nat.zero_le _, Nat.zero_le _⟩

theorem length_le_recent (count room : Nat) (es : List Edit) {others : List Edit}
    (first : others <+: es) (few : others.length ≤ count) (small : held others ≤ room) :
    others.length ≤ (recent Edit.bytes count room es).length := by
  fun_induction recent Edit.bytes count room es generalizing others with
  | case1 => exact few
  | case2 => exact first.length_le
  | case3 room e es count hroom ih =>
    cases others with
    | nil => exact Nat.zero_le _
    | cons x xs =>
      obtain ⟨rfl, hxs⟩ := List.cons_prefix_cons.mp first
      simp only [held, List.map_cons, List.sum_cons] at small
      refine Nat.succ_le_succ (ih hxs (Nat.le_of_succ_le_succ few) ?_)
      simp only [held]
      omega
  | case4 room e es count hroom =>
    cases others with
    | nil => exact Nat.le_refl _
    | cons x xs =>
      obtain ⟨rfl, -⟩ := List.cons_prefix_cons.mp first
      simp only [held, List.map_cons, List.sum_cons] at small
      omega

/-- To drop the oldest edits as long as it takes leaves as many of the last ones as there is room for. -/
theorem done_trim {h : History} (counted : h.bytes = held h.done) :
    h.trim.done = recent Edit.bytes maxEdits maxBytes h.done := by
  have hlongest := isLongest_trim counted
  have hfirst := prefix_recent Edit.bytes maxEdits maxBytes h.done
  have hrecent := hlongest.longest _ hfirst (recent_within maxEdits maxBytes h.done)
  have htrim := length_le_recent maxEdits maxBytes h.done hlongest.last hlongest.within.1
    hlongest.within.2
  exact (List.prefix_of_prefix_length_le hlongest.last hfirst htrim).eq_of_length_le hrecent

variable {h : History} {r : Snapshots} {e : Edit} {m : Memo}

theorem trail_extended (same : h.joining = r.joining) (links : e.Matches m)
    (past : Trail (·.after) (·.before) h.done r.past m.before.text) :
    Trail (·.after) (·.before) (h.extended e) (r.extended m) m.after.text := by
  unfold extended Snapshots.extended
  generalize hdone : h.done = done at past
  generalize hpast : r.past = memos at past
  cases past with
  | nil => exact .cons links rfl .nil
  | cons hlast here rest =>
    simp only [same, Edit.continuedBy_eq hlast links]
    split
    · next hjoin =>
      rw [Bool.and_eq_true, ← Edit.continuedBy_eq hlast links] at hjoin
      exact .cons (Edit.matches_join hlast links here hjoin.2) rfl rest
    · exact .cons links rfl (.cons hlast here rest)

theorem done_record (bounded : h.Bounded) (changes : e.isEmpty = false) :
    (h.record e).done = recent Edit.bytes maxEdits maxBytes (h.extended e) := by
  have counted := counted_push (h := { h with undone := [] }) bounded.counted e
  have hpush : ({ h with undone := [] }.push e).done = h.extended e := done_push _ e
  rw [record, changes, if_neg Bool.false_ne_true, done_trim counted, hpush]

/-- What is recorded in both memories is linked in both. -/
theorem trail_record (bounded : h.Bounded) (same : h.joining = r.joining) (links : e.Matches m)
    (past : Trail (·.after) (·.before) h.done r.past m.before.text) :
    Trail (·.after) (·.before) (h.record e).done (r.record m).past m.after.text := by
  rw [done_record bounded links.isEmpty]
  exact (trail_extended same links past).recent maxEdits maxBytes

end History

end CodeEditor
