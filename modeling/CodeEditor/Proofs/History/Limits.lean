import CodeEditor.Proofs.History

/-! # The limits of a history

Recording an edit drops as few of the old ones as the limits ask for, and making one again drops none:
undo and redo take each other back. The count of bytes may stop at the greatest number of a machine
without any other edit being kept.
-/

namespace CodeEditor.History

/-! ## Any operations -/

inductive Operation where
  | record (e : Edit)
  | undo
  | redo
  | clear

def apply (h : History) : Operation → History
  | .record e => h.record e
  | .undo => (h.undo?.map (·.1)).getD h
  | .redo => (h.redo?.map (·.1)).getD h
  | .clear => h.clear

def applyAll (h : History) (operations : List Operation) : History := operations.foldl apply h

theorem bounded_record {h : History} (bounded : h.Bounded) (e : Edit) : (h.record e).Bounded := by
  cases hempty : e.isEmpty with
  | true =>
    unfold record
    rwa [if_pos hempty]
  | false =>
    obtain ⟨_, -, -, hrecorded⟩ := record_eq bounded.counted hempty
    exact hrecorded

theorem bounded_apply {h : History} (bounded : h.Bounded) (operation : Operation) :
    (h.apply operation).Bounded := by
  cases operation with
  | record e => exact bounded_record bounded e
  | undo =>
    unfold apply
    cases hdone : h.done with
    | nil => simpa [undo?, hdone] using bounded
    | cons e es =>
      rw [undo?_cons hdone]
      exact bounded_undo bounded hdone
  | redo =>
    unfold apply
    cases hundone : h.undone with
    | nil => simpa [redo?, hundone] using bounded
    | cons e es =>
      rw [redo?_cons bounded hundone]
      exact bounded_redo bounded hundone
  | clear => exact bounded_new h.joining

theorem bounded_applyAll {h : History} (bounded : h.Bounded) (operations : List Operation) :
    (h.applyAll operations).Bounded := by
  induction operations generalizing h with
  | nil => exact bounded
  | cons operation operations ih => exact ih (bounded_apply bounded operation)

/-! ## Undo and redo -/

/-- Undo and redo take each other back, and a redo makes the last undone edit again beside all the
others. -/
structure Reversible (h : History) : Prop where
  undo : ∀ back step, h.undo? = some (back, step) → ∃ again, back.redo? = some (h, again)
  redo : ∀ on step, h.redo? = some (on, step) → ∃ again, on.undo? = some (h, again)
  keeps : ∀ e es, h.undone = e :: es → ∃ on, h.redo? = some (on, e.forward) ∧
    on.done = e :: h.done ∧ on.undone = es

theorem reversible_of_bounded {h : History} (bounded : h.Bounded) : h.Reversible := by
  refine ⟨?_, ?_, ?_⟩
  · intro back step hundo
    cases hdone : h.done with
    | nil => simp [undo?, hdone] at hundo
    | cons e es =>
      rw [undo?_cons hdone] at hundo
      cases hundo
      have hback := bounded_undo bounded hdone
      have hbytes : h.bytes - e.bytes + e.bytes = h.bytes := by
        have := bounded.counted
        simp only [hdone, held, List.map_cons, List.sum_cons] at this
        omega
      refine ⟨e.forward, ?_⟩
      rw [redo?_cons hback rfl]
      simp only [hbytes, ← hdone]
  · intro on step hredo
    cases hundone : h.undone with
    | nil => simp [redo?, hundone] at hredo
    | cons e es =>
      rw [redo?_cons bounded hundone] at hredo
      cases hredo
      refine ⟨e.backward, ?_⟩
      rw [undo?_cons rfl]
      simp only [Nat.add_sub_cancel, ← hundone]
  · intro e es hundone
    exact ⟨_, redo?_cons bounded hundone, rfl, rfl⟩

/-! ## What is kept -/

/-- Neither too many edits nor too much text. -/
def Within (es : List Edit) : Prop := es.length ≤ maxEdits ∧ held es ≤ maxBytes

/-- The edits that can be undone with one more, which is joined to the last one if it goes on from
there. -/
def extended (h : History) (e : Edit) : List Edit :=
  match h.done with
  | last :: rest => if h.joining && last.continuedBy e then last.join e :: rest else e :: last :: rest
  | [] => [e]

/-- As many of the last edits as are within the limits. -/
structure IsLongest (es kept : List Edit) : Prop where
  last : kept <+: es
  within : Within kept
  longest : ∀ others, others <+: es → Within others → others.length ≤ kept.length

/-- The count stops at the greatest number of 64 bits. -/
def saturated (h : History) : History := { h with bytes := min h.bytes (2 ^ 64 - 1) }

structure Recorded (h : History) (e : Edit) (h' : History) : Prop where
  undone : h'.undone = []
  done : IsLongest (h.extended e) h'.done
  /-- An edit that is too large is not kept, and no other is. -/
  tooLarge : ∀ last rest, h.extended e = last :: rest → maxBytes < last.bytes → h'.done = []
  /-- A count that stops at the greatest number makes no difference. -/
  saturating : ({ h with undone := [] }.push e).saturated.trim = h'

theorem done_push (h : History) (e : Edit) : (h.push e).done = h.extended e := by
  rcases h with ⟨joining, _ | ⟨last, rest⟩, undone, bytes⟩
  · rfl
  · simp only [push, extended]
    split <;> rfl

theorem length_le_dropOldest (es : List Edit) (n : Nat) (within : Within (es.drop n)) :
    (es.drop n).length ≤ (dropOldest es.length (held es) es).1.length := by
  induction es generalizing n with
  | nil => simp
  | cons e es ih =>
    unfold dropOldest
    split
    · next hexceeds =>
      cases n with
      | zero =>
        rw [List.drop_zero, Within, ← exceeds_eq_false, List.length_cons] at within
        rw [List.length_cons, within] at hexceeds
        cases hexceeds
      | succ n =>
        have hheld : held (e :: es) - e.bytes = held es := by simp [held]
        rw [List.drop_succ_cons] at within ⊢
        rw [hheld, List.length_cons, Nat.add_sub_cancel]
        exact ih n within
    · rw [List.length_drop]
      exact Nat.sub_le _ _

theorem isLongest_trim {h : History} (counted : h.bytes = held h.done) :
    IsLongest h.done h.trim.done := by
  obtain ⟨n, htrim, hcount, hbytes⟩ := trim_eq counted
  refine ⟨?_, ?_, ?_⟩
  · rw [htrim]
    exact List.take_prefix n h.done
  · rw [htrim]
    exact ⟨hcount, hbytes⟩
  · intro others hprefix within
    have hle := hprefix.length_le
    unfold trim
    split
    · -- Seen from the oldest edit on, the last ones are what is left after some are dropped.
      have hdrop : others.reverse = h.done.reverse.drop (h.done.length - others.length) := by
        rw [List.drop_reverse, Nat.sub_sub_self hle, ← List.prefix_iff_eq_take.mp hprefix]
      have hheld : ∀ es : List Edit, held es.reverse = held es := fun es => by simp [held]
      have hlonger := length_le_dropOldest h.done.reverse (h.done.length - others.length) (by
        rw [← hdrop, Within, List.length_reverse, hheld]
        exact within)
      rw [← hdrop, List.length_reverse, List.length_reverse, hheld, ← counted] at hlonger
      simpa using hlonger
    · exact hle

theorem IsLongest.eq_nil {last : Edit} {rest kept : List Edit} (h : IsLongest (last :: rest) kept)
    (large : maxBytes < last.bytes) : kept = [] := by
  cases kept with
  | nil => rfl
  | cons e es =>
    obtain ⟨rfl, -⟩ := List.cons_prefix_cons.mp h.last
    have := h.within.2
    simp only [held, List.map_cons, List.sum_cons] at this
    omega

/-! ## A count that stops -/

theorem dropOldest_tooLarge (es : List Edit) {e : Edit} {count bytes : Nat}
    (large : held es + maxBytes < bytes) (stops : bytes ≤ held es + e.bytes) :
    dropOldest count bytes (es ++ [e]) = ([], 0) := by
  induction es generalizing count bytes with
  | nil =>
    simp only [held, List.map_nil, List.sum_nil] at large stops
    have hexceeds : exceeds count bytes = true := by simp [exceeds]; omega
    simp [dropOldest, hexceeds]
    omega
  | cons first es ih =>
    simp only [held, List.map_cons, List.sum_cons] at large stops
    have hexceeds : exceeds count bytes = true := by simp [exceeds]; omega
    rw [List.cons_append, dropOldest, if_pos hexceeds]
    apply ih
    · simp only [held]
      omega
    · simp only [held]
      omega

/-- A count that stops at the greatest number leaves the same edits, as long as all but the last of them
were within the limits. -/
theorem trim_saturated {h : History} {last : Edit} {rest : List Edit} (hdone : h.done = last :: rest)
    (counted : h.bytes = held h.done) (within : held rest ≤ maxBytes) :
    h.saturated.trim = h.trim := by
  by_cases hfits : h.bytes ≤ 2 ^ 64 - 1
  · rw [saturated, Nat.min_eq_left hfits]
  · have hlimit : maxBytes = 8388608 := by decide
    have hsum : h.bytes = last.bytes + held rest := by
      rw [counted, hdone]
      simp [held]
    have hreverse : held rest.reverse = held rest := by simp [held]
    have hexceeds : ∀ count bytes, maxBytes < bytes → exceeds count bytes = true := by
      intro count bytes hlarge
      simp [exceeds, hlarge]
    have hall : ∀ count bytes, 2 ^ 64 - 1 ≤ bytes → bytes ≤ h.bytes →
        dropOldest count bytes h.done.reverse = ([], 0) := by
      intro count bytes hlow hhigh
      rw [hdone, List.reverse_cons]
      apply dropOldest_tooLarge
      · omega
      · omega
    have hstop : min h.bytes (2 ^ 64 - 1) = 2 ^ 64 - 1 := Nat.min_eq_right (by omega)
    simp only [trim, saturated, hstop]
    rw [if_pos (hexceeds _ _ (by omega)), if_pos (hexceeds _ _ (by omega)),
      hall _ _ (Nat.le_refl _) (by omega), hall _ _ (by omega) (Nat.le_refl _)]

/-! ## Recording -/

theorem exists_extended (h : History) (e : Edit) :
    ∃ last rest, h.extended e = last :: rest ∧ held rest ≤ held h.done := by
  unfold extended
  split
  · next last rest hdone =>
    split
    · refine ⟨_, _, rfl, ?_⟩
      rw [hdone]
      simp [held]
    · exact ⟨_, _, rfl, Nat.le_of_eq (by rw [hdone])⟩
  · exact ⟨_, _, rfl, Nat.zero_le _⟩

theorem recorded_record {h : History} (bounded : h.Bounded) {e : Edit} (changes : e.isEmpty = false) :
    h.Recorded e (h.record e) := by
  have counted := counted_push (h := { h with undone := [] }) bounded.counted e
  have hdone : ({ h with undone := [] }.push e).done = h.extended e := done_push _ e
  have hlongest := isLongest_trim counted
  obtain ⟨_, -, hundone, -⟩ := record_eq bounded.counted changes
  have hrecord : h.record e = ({ h with undone := [] }.push e).trim := by
    unfold record
    simp [changes]
  rw [hdone, ← hrecord] at hlongest
  refine ⟨hundone, hlongest, ?_, ?_⟩
  · intro last rest hextended large
    rw [hextended] at hlongest
    exact hlongest.eq_nil large
  · obtain ⟨last, rest, hextended, hrest⟩ := exists_extended h e
    have hheld : held rest ≤ maxBytes := by
      have := bounded.bytes
      omega
    rw [hrecord]
    exact trim_saturated (hdone.trans hextended) counted hheld

/-- After any operations the history counts its bytes and is within the limits, undo and redo take each
other back, and of the edits with one more the longest part within the limits is kept. -/
theorem history_keeps_within_limits (joining : Bool) (operations : List Operation) :
    let h := (new joining).applyAll operations
    h.Bounded ∧ h.Reversible ∧ ∀ e, e.isEmpty = false → h.Recorded e (h.record e) := by
  have bounded := bounded_applyAll (bounded_new joining) operations
  refine ⟨bounded, reversible_of_bounded bounded, ?_⟩
  intro e changes
  exact recorded_record bounded changes

end CodeEditor.History
