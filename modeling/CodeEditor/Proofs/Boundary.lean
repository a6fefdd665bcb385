import CodeEditor.Text.Boundary
import Mathlib.Order.Bounds.Basic

/-! # Boundaries of characters

A span of bytes is widened to boundaries before it is used. Here: the bounds it is widened to, and the
pieces into which they cut the text.
-/

namespace CodeEditor.Text

theorem byteLength_eq_zero (text : List Char) : byteLength text = 0 ↔ text = [] := by
  cases text with
  | nil => simp
  | cons c cs => have := c.utf8Size_pos; simp; omega

theorem isBoundary_zero (text : List Char) : IsBoundary text 0 := ⟨[], text, rfl, rfl⟩

theorem isBoundary_byteLength (text : List Char) : IsBoundary text (byteLength text) :=
  ⟨text, [], by simp, rfl⟩

theorem IsBoundary.le_byteLength {text : List Char} {byte : Nat} (h : IsBoundary text byte) :
    byte ≤ byteLength text := by
  obtain ⟨before, after, rfl, rfl⟩ := h
  simp

theorem isBoundary_byteOffset (text : List Char) (index : Nat) :
    IsBoundary text (byteOffset text index) :=
  ⟨text.take index, text.drop index, (List.take_append_drop index text).symm, rfl⟩

theorem isBoundary_cons {c : Char} {cs : List Char} {byte : Nat} :
    IsBoundary (c :: cs) byte ↔ byte = 0 ∨ ∃ rest, IsBoundary cs rest ∧ byte = c.utf8Size + rest := by
  constructor
  · rintro ⟨before, after, h, rfl⟩
    cases before with
    | nil => left; rfl
    | cons b bs =>
      obtain ⟨rfl, rfl⟩ := List.cons.inj h
      exact Or.inr ⟨byteLength bs, ⟨bs, after, rfl, rfl⟩, by simp⟩
  · rintro (rfl | ⟨rest, ⟨before, after, rfl, rfl⟩, rfl⟩)
    · exact isBoundary_zero _
    · exact ⟨c :: before, after, rfl, by simp⟩

/-! ## The byte offsets of characters -/

theorem byteOffset_append {piece : List Char} (text : List Char) {index : Nat}
    (h : index ≤ piece.length) : byteOffset (piece ++ text) index = byteOffset piece index := by
  unfold byteOffset
  rw [List.take_append_of_le_length h]

theorem byteOffset_append_add (piece text : List Char) (index : Nat) :
    byteOffset (piece ++ text) (piece.length + index) =
      byteLength piece + byteOffset text index := by
  unfold byteOffset
  rw [List.take_length_add_append, byteLength_append]

theorem byteOffset_le (text : List Char) (index : Nat) : byteOffset text index ≤ byteLength text :=
  (isBoundary_byteOffset text index).le_byteLength

theorem byteOffset_mono (text : List Char) {i j : Nat} (h : i ≤ j) :
    byteOffset text i ≤ byteOffset text j := by
  unfold byteOffset
  rw [← Nat.add_sub_cancel' h, List.take_add, byteLength_append]
  exact Nat.le_add_right _ _

theorem byteOffset_lt {text : List Char} {i : Nat} (inside : i < text.length) :
    byteOffset text i < byteOffset text (i + 1) := by
  have hpos := text[i].utf8Size_pos
  unfold byteOffset
  rw [List.take_add_one, List.getElem?_eq_getElem inside, byteLength_append]
  simp
  exact hpos

theorem byteOffset_le_iff {text : List Char} {i : Nat} (inside : i < text.length) (j : Nat) :
    byteOffset text j ≤ byteOffset text i ↔ j ≤ i := by
  constructor
  · intro h
    by_contra hlt
    have := byteOffset_lt inside
    have := byteOffset_mono text (show i + 1 ≤ j by omega)
    omega
  · exact byteOffset_mono text

theorem byteOffset_lt_iff {text : List Char} {i : Nat} (inside : i < text.length) (j : Nat) :
    byteOffset text i < byteOffset text j ↔ i < j := by
  rw [← Nat.not_le, byteOffset_le_iff inside, Nat.not_le]

theorem byteOffset_succ_le {text : List Char} {index byte : Nat} (h : IsBoundary text byte)
    (past : byteOffset text index < byte) : byteOffset text (index + 1) ≤ byte := by
  obtain ⟨before, after, rfl, rfl⟩ := h
  have hbefore : byteOffset (before ++ after) before.length = byteLength before := by
    rw [byteOffset, List.take_left]
  rw [← hbefore] at past ⊢
  rcases Nat.lt_or_ge index before.length with hlt | hle
  · exact byteOffset_mono _ hlt
  · exact absurd past (byteOffset_mono _ hle).not_gt

section Character

variable {before after : List Char} {c : Char} {byte : Nat}

theorem isBoundary_ahead : IsBoundary (before ++ c :: after) (byteLength before) :=
  ⟨before, c :: after, rfl, rfl⟩

theorem isBoundary_behind :
    IsBoundary (before ++ c :: after) (byteLength before + c.utf8Size) :=
  ⟨before ++ [c], after, by simp, by simp⟩

theorem behind_le_of_isBoundary (h : IsBoundary (before ++ c :: after) byte)
    (past : byteLength before < byte) : byteLength before + c.utf8Size ≤ byte := by
  have hahead : byteOffset (before ++ c :: after) before.length = byteLength before := by
    simp [byteOffset]
  have hbehind : byteOffset (before ++ c :: after) (before.length + 1) =
      byteLength before + c.utf8Size := by
    rw [byteOffset_append_add]
    simp [byteOffset]
  rw [← hbehind]
  apply byteOffset_succ_le h
  rwa [hahead]

end Character

/-! ## The nearest boundaries -/

theorem isBoundary_floorBoundary (text : List Char) (byte : Nat) :
    IsBoundary text (floorBoundary text byte) := by
  induction text generalizing byte with
  | nil => exact isBoundary_zero _
  | cons c cs ih =>
    rw [floorBoundary]
    split
    · exact isBoundary_zero _
    · exact isBoundary_cons.mpr (Or.inr ⟨_, ih _, rfl⟩)

theorem floorBoundary_le (text : List Char) (byte : Nat) : floorBoundary text byte ≤ byte := by
  induction text generalizing byte with
  | nil => simp [floorBoundary]
  | cons c cs ih =>
    have := ih (byte - c.utf8Size)
    rw [floorBoundary]
    split <;> omega

theorem le_floorBoundary {text : List Char} {byte bound : Nat} (h : IsBoundary text bound)
    (hle : bound ≤ byte) : bound ≤ floorBoundary text byte := by
  induction text generalizing byte bound with
  | nil => exact h.le_byteLength
  | cons c cs ih =>
    rcases isBoundary_cons.mp h with rfl | ⟨rest, hrest, rfl⟩
    · omega
    · have : rest ≤ floorBoundary cs (byte - c.utf8Size) := ih hrest (by omega)
      rw [floorBoundary, if_neg (by omega)]
      omega

theorem floorBoundary_eq {text : List Char} {byte : Nat} (h : IsBoundary text byte) :
    floorBoundary text byte = byte :=
  le_antisymm (floorBoundary_le text byte) (le_floorBoundary h le_rfl)

theorem isBoundary_ceilBoundary (text : List Char) (byte : Nat) :
    IsBoundary text (ceilBoundary text byte) := by
  induction text generalizing byte with
  | nil => exact isBoundary_zero _
  | cons c cs ih =>
    rw [ceilBoundary]
    split
    · exact isBoundary_zero _
    · exact isBoundary_cons.mpr (Or.inr ⟨_, ih _, rfl⟩)

theorem min_le_ceilBoundary (text : List Char) (byte : Nat) :
    min byte (byteLength text) ≤ ceilBoundary text byte := by
  induction text generalizing byte with
  | nil => simp
  | cons c cs ih =>
    have := ih (byte - c.utf8Size)
    rw [ceilBoundary, byteLength_cons]
    split <;> omega

theorem ceilBoundary_le {text : List Char} {byte bound : Nat} (h : IsBoundary text bound)
    (hle : min byte (byteLength text) ≤ bound) : ceilBoundary text byte ≤ bound := by
  induction text generalizing byte bound with
  | nil => simp [ceilBoundary]
  | cons c cs ih =>
    have hpos := c.utf8Size_pos
    rw [byteLength_cons] at hle
    rw [ceilBoundary]
    split
    · omega
    · rcases isBoundary_cons.mp h with rfl | ⟨rest, hrest, rfl⟩
      · omega
      · have : ceilBoundary cs (byte - c.utf8Size) ≤ rest := ih hrest (by omega)
        omega

/-! ## Widened spans -/

/-- `r` is the span `s`, cut to the text and widened to whole characters: it starts at the greatest
boundary that is not past the start of `s`, and stops at the least one that is not before its end,
but not before its own start. -/
def Widens (text : List Char) (s r : Span) : Prop :=
  IsGreatest {b | IsBoundary text b ∧ b ≤ min s.start (byteLength text)} r.start ∧
    ∃ stop, IsLeast {b | IsBoundary text b ∧ min s.stop (byteLength text) ≤ b} stop ∧
      r.stop = max r.start stop

theorem widens_snap (text : List Char) (s : Span) : Widens text s (snap text s) := by
  refine ⟨⟨⟨isBoundary_floorBoundary _ _, ?_⟩, ?_⟩, ceilBoundary text s.stop,
    ⟨⟨isBoundary_ceilBoundary _ _, min_le_ceilBoundary _ _⟩, ?_⟩, rfl⟩
  · exact le_min (floorBoundary_le _ _) (isBoundary_floorBoundary _ _).le_byteLength
  · rintro b ⟨hb, hle⟩
    exact le_floorBoundary hb (by omega)
  · rintro b ⟨hb, hle⟩
    exact ceilBoundary_le hb hle

theorem snap_ordered (text : List Char) (s : Span) : (snap text s).start ≤ (snap text s).stop :=
  le_max_left _ _

theorem isBoundary_snap_start (text : List Char) (s : Span) : IsBoundary text (snap text s).start :=
  isBoundary_floorBoundary _ _

theorem isBoundary_snap_stop (text : List Char) (s : Span) : IsBoundary text (snap text s).stop := by
  simp only [snap]
  rcases le_total (floorBoundary text s.start) (ceilBoundary text s.stop) with h | h
  · rw [max_eq_right h]; exact isBoundary_ceilBoundary _ _
  · rw [max_eq_left h]; exact isBoundary_floorBoundary _ _

theorem snap_eq_self {text : List Char} {s : Span} (hstart : IsBoundary text s.start)
    (hstop : IsBoundary text s.stop) (ordered : s.start ≤ s.stop) : snap text s = s := by
  have h1 : floorBoundary text s.start = s.start :=
    le_antisymm (floorBoundary_le _ _) (le_floorBoundary hstart le_rfl)
  have h2 : ceilBoundary text s.stop = s.stop := by
    have := min_le_ceilBoundary text s.stop
    have : ceilBoundary text s.stop ≤ s.stop := ceilBoundary_le hstop (min_le_left _ _)
    have := hstop.le_byteLength
    omega
  cases s
  simp only [snap, h1, h2] at *
  rw [max_eq_right ordered]

/-- The bytes that these characters of a text take up. -/
def bytesOf (text : List Char) (s : Span) : Span :=
  ⟨byteOffset text s.start, byteOffset text s.stop⟩

theorem snap_bytesOf (text : List Char) {s : Span} (ordered : s.start ≤ s.stop) :
    snap text (bytesOf text s) = bytesOf text s := by
  exact snap_eq_self (isBoundary_byteOffset text _) (isBoundary_byteOffset text _)
    (byteOffset_mono text ordered)

/-! ## Cutting a text -/

theorem splitAtByte_byteLength (before after : List Char) :
    splitAtByte (before ++ after) (byteLength before) = (before, after) := by
  induction before with
  | nil =>
    cases after with
    | nil => rfl
    | cons c cs => rw [List.nil_append, splitAtByte, if_pos (by simpa using c.utf8Size_pos)]
  | cons c cs ih =>
    rw [List.cons_append, splitAtByte, byteLength_cons, if_neg (by omega), Nat.add_sub_cancel_left, ih]

theorem exists_pieces {text : List Char} {start stop : Nat} (hstart : IsBoundary text start)
    (hstop : IsBoundary text stop) (ordered : start ≤ stop) :
    ∃ before inside after, text = before ++ inside ++ after ∧ byteLength before = start ∧
      byteLength (before ++ inside) = stop := by
  obtain ⟨before, rest, rfl, rfl⟩ := hstart
  obtain ⟨most, after, h, rfl⟩ := hstop
  rcases List.append_eq_append_iff.mp h with ⟨inside, rfl, rfl⟩ | ⟨extra, rfl, rfl⟩
  · exact ⟨before, inside, after, by simp, rfl, rfl⟩
  · -- The second cut is not before the first, so nothing lies between them.
    have : extra = [] := (byteLength_eq_zero _).mp (by simp at ordered; omega)
    subst this
    exact ⟨most, [], rest, by simp, by simp, by simp⟩

theorem exists_pieces_snap (text : List Char) (s : Span) :
    ∃ before inside after, text = before ++ inside ++ after ∧
      byteLength before = (snap text s).start ∧ byteLength (before ++ inside) = (snap text s).stop :=
  exists_pieces (isBoundary_snap_start _ _) (isBoundary_snap_stop _ _) (snap_ordered _ _)

theorem exists_split_inside {before inside after u v : List Char} {d : Char}
    (h : before ++ inside ++ after = u ++ d :: v) (past : byteLength before ≤ byteLength u)
    (ahead : byteLength u < byteLength (before ++ inside)) :
    ∃ x y, inside = x ++ d :: y ∧ u = before ++ x ∧ v = y ++ after := by
  rw [List.append_assoc] at h
  simp only [byteLength_append] at ahead
  rcases List.append_eq_append_iff.mp h with ⟨x, rfl, hrest⟩ | ⟨x, rfl, hrest⟩
  · simp only [byteLength_append] at ahead
    rcases List.append_eq_append_iff.mp hrest with ⟨z, rfl, -⟩ | ⟨z, rfl, hd⟩
    · simp only [byteLength_append] at ahead
      omega
    · cases z with
      | nil => simp at ahead
      | cons e y =>
        obtain ⟨rfl, rfl⟩ := List.cons.inj hd
        exact ⟨x, y, rfl, rfl, rfl⟩
  · have hx : x = [] := (byteLength_eq_zero x).mp (by simp at past; omega)
    subst hx
    cases inside with
    | nil => simp at ahead
    | cons e y =>
      obtain ⟨rfl, rfl⟩ := List.cons.inj hrest
      exact ⟨[], y, rfl, by simp, rfl⟩

end CodeEditor.Text
