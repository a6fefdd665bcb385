import CodeEditor.Proofs.Gutter
import Mathlib.Algebra.GroupWithZero.Nat
import Mathlib.Data.List.Chain

/-! # Wrapping

A fragment is left for the next one only when the character that comes does not fit into it any more.
So no other way to cut a line into fragments that are not too wide has fewer of them. A character that
is too wide for any row gets one without others that take columns.
-/

namespace CodeEditor.Gutter

/-- The columns taken by a fragment. -/
def taken (width : Char → Nat) (fragment : List Char) : Nat := (fragment.map width).sum

/-- The fragments of a line, from where they start. -/
def cutAt (line : List Char) : List Nat → List (List Char)
  | [] => []
  | [start] => [line.drop start]
  | start :: next :: rest => (line.take next).drop start :: cutAt line (next :: rest)

/-- The fragments of a line of which one has begun, and some characters are left. -/
def wrapped (width : Char → Nat) (columns : Nat) (begun : List Char) : List Char → List (List Char)
  | [] => [begun]
  | c :: cs =>
    if 0 < taken width begun ∧ columns < taken width begun + width c then
      begun :: wrapped width columns [c] cs
    else wrapped width columns (begun ++ [c]) cs

/-- A fragment is not too wide, or holds only one character that takes columns. -/
def Holds (width : Char → Nat) (columns : Nat) (fragment : List Char) : Prop :=
  taken width fragment ≤ columns ∨ fragment.countP (0 < width ·) = 1

/-- There was no room in a fragment for the first character of the next one. -/
def IsForced (width : Char → Nat) (columns : Nat) (fragment next : List Char) : Prop :=
  ∃ c cs, next = c :: cs ∧ columns < taken width fragment + width c

variable {width : Char → Nat} {columns : Nat} {fragment begun : List Char}

@[simp]
theorem taken_nil : taken width [] = 0 := rfl

@[simp]
theorem taken_cons (c : Char) (fragment : List Char) :
    taken width (c :: fragment) = width c + taken width fragment := by
  simp [taken]

theorem taken_singleton (c : Char) : taken width [c] = width c := by
  simp

@[simp]
theorem taken_append (fragment more : List Char) :
    taken width (fragment ++ more) = taken width fragment + taken width more := by
  simp [taken]

/-! ## Fragments and where they start -/

theorem cutAt_breaks (width : Char → Nat) (columns : Nat) (before begun rest : List Char) :
    cutAt (before ++ (begun ++ rest)) (before.length ::
        breaks width columns (before.length + begun.length) (taken width begun) rest) =
      wrapped width columns begun rest := by
  induction rest generalizing before begun with
  | nil => simp [breaks, cutAt, wrapped]
  | cons c cs ih =>
    rw [breaks, wrapped]
    split
    · have hbegun : ((before ++ (begun ++ c :: cs)).take (before.length + begun.length)).drop
          before.length = begun := by
        rw [← List.append_assoc, ← List.length_append, List.take_left, List.drop_left]
      have hlater := ih (before ++ begun) [c]
      rw [List.length_append, taken_singleton, List.append_assoc] at hlater
      rw [cutAt, hbegun]
      exact congrArg (begun :: ·) hlater
    · have hlater := ih before (begun ++ [c])
      rw [List.append_assoc, List.length_append, taken_append, taken_singleton, ← Nat.add_assoc]
        at hlater
      exact hlater

theorem cutAt_fragmentStarts (width : Char → Nat) (h : 0 < columns) (line : List Char) :
    cutAt line (fragmentStarts width (some columns) line) = wrapped width columns [] line := by
  have hwraps : columns ≠ 0 := by omega
  simpa [fragmentStarts, hwraps] using cutAt_breaks width columns [] [] line

theorem length_cutAt (line : List Char) (starts : List Nat) :
    (cutAt line starts).length = starts.length := by
  induction starts using cutAt.induct with
  | case1 => rfl
  | case2 start => rfl
  | case3 start next rest ih => rw [cutAt, List.length_cons, ih, List.length_cons (a := start)]

/-! ## One fragment after the other -/

theorem flatten_wrapped (begun rest : List Char) :
    (wrapped width columns begun rest).flatten = begun ++ rest := by
  induction rest generalizing begun with
  | nil => simp [wrapped]
  | cons c cs ih =>
    rw [wrapped]
    split
    · rw [List.flatten_cons, ih, List.singleton_append]
    · rw [ih, List.append_assoc, List.singleton_append]

theorem exists_wrapped (width : Char → Nat) (columns : Nat) (begun rest : List Char) :
    ∃ more later, wrapped width columns begun rest = (begun ++ more) :: later := by
  induction rest generalizing begun with
  | nil => exact ⟨[], [], by rw [wrapped, List.append_nil]⟩
  | cons c cs ih =>
    rw [wrapped]
    split
    · exact ⟨[], _, by rw [List.append_nil]⟩
    · obtain ⟨more, later, hmore⟩ := ih (begun ++ [c])
      exact ⟨c :: more, later, by rw [hmore, List.append_assoc, List.singleton_append]⟩

theorem holds_singleton (width : Char → Nat) (columns : Nat) (c : Char) : Holds width columns [c] := by
  rcases Nat.eq_zero_or_pos (width c) with hnone | hsome
  · left
    rw [taken_singleton]
    omega
  · exact .inr (by simp [hsome])

theorem countP_of_taken_eq_zero (h : taken width fragment = 0) :
    fragment.countP (0 < width ·) = 0 := by
  rw [List.countP_eq_zero]
  intro c hc
  have hnone := List.sum_eq_zero_iff_forall_eq_nat.mp h (width c) (List.mem_map_of_mem hc)
  simp [hnone]

theorem holds_concat {c : Char}
    (room : ¬ (0 < taken width begun ∧ columns < taken width begun + width c)) :
    Holds width columns (begun ++ [c]) := by
  by_cases hempty : taken width begun = 0
  · rcases holds_singleton width columns c with hnarrow | hone
    · left
      rw [taken_append, hempty, Nat.zero_add]
      exact hnarrow
    · right
      rw [List.countP_append, countP_of_taken_eq_zero hempty, Nat.zero_add]
      exact hone
  · left
    rw [taken_append, taken_singleton]
    omega

theorem holds_wrapped (h : Holds width columns begun) (rest : List Char) :
    ∀ fragment ∈ wrapped width columns begun rest, Holds width columns fragment := by
  induction rest generalizing begun with
  | nil =>
    rw [wrapped]
    exact List.forall_mem_singleton.mpr h
  | cons c cs ih =>
    rw [wrapped]
    split
    · exact List.forall_mem_cons.mpr ⟨h, ih (holds_singleton width columns c)⟩
    · next room => exact ih (holds_concat room)

theorem taken_le_mul (narrow : ∀ c ∈ fragment, width c ≤ columns) :
    taken width fragment ≤ fragment.countP (0 < width ·) * columns := by
  induction fragment with
  | nil => simp
  | cons c cs ih =>
    obtain ⟨hfirst, hrest⟩ := List.forall_mem_cons.mp narrow
    have hlater := ih hrest
    rw [taken_cons, List.countP_cons]
    by_cases hnone : width c = 0
    · rw [if_neg (by simp [hnone]), hnone, Nat.zero_add, Nat.add_zero]
      exact hlater
    · rw [if_pos (decide_eq_true (Nat.pos_of_ne_zero hnone)), Nat.add_mul, Nat.one_mul]
      omega

theorem Holds.taken_le (h : Holds width columns fragment)
    (narrow : ∀ c ∈ fragment, width c ≤ columns) : taken width fragment ≤ columns := by
  rcases h with hnarrow | hone
  · exact hnarrow
  · have hle := taken_le_mul narrow
    rw [hone, Nat.one_mul] at hle
    exact hle

theorem isChain_wrapped (begun rest : List Char) :
    (wrapped width columns begun rest).IsChain (IsForced width columns) := by
  induction rest generalizing begun with
  | nil =>
    rw [wrapped]
    exact .singleton begun
  | cons c cs ih =>
    rw [wrapped]
    split
    · next hfull =>
      obtain ⟨more, later, hnext⟩ := exists_wrapped width columns [c] cs
      have hchain := ih [c]
      rw [hnext] at hchain ⊢
      exact .cons_cons ⟨c, more, rfl, hfull.2⟩ hchain
    · exact ih (begun ++ [c])

/-! ## No fewer fragments -/

theorem exists_left {c : Char} {ahead begun cs first later : List Char}
    (full : columns < taken width begun + width c) (narrow : taken width first ≤ columns)
    (h : first ++ later = ahead ++ (begun ++ c :: cs)) : ∃ left, later = left ++ c :: cs := by
  rw [← List.append_assoc] at h
  rcases List.append_eq_append_iff.mp h with ⟨left, -, hlater⟩ | ⟨excess, hfirst, hcs⟩
  · exact ⟨left, hlater⟩
  · cases excess with
    | nil => exact ⟨[], hcs.symm⟩
    | cons d excess =>
      obtain ⟨rfl, -⟩ := List.cons.inj hcs
      have hwide : taken width first =
          taken width ahead + taken width begun + (width c + taken width excess) := by
        rw [hfirst, taken_append, taken_append, taken_cons]
      omega

/-- Other fragments may have more characters left to them, and then need as many for what is left. -/
theorem length_wrapped_le {other : List (List Char)} (ahead begun rest : List Char)
    (filled : begun ++ rest ≠ []) (whole : other.flatten = ahead ++ (begun ++ rest))
    (narrow : ∀ fragment ∈ other, taken width fragment ≤ columns) :
    (wrapped width columns begun rest).length ≤ other.length := by
  induction rest generalizing ahead begun other with
  | nil =>
    cases other with
    | nil => exact absurd (List.append_eq_nil_iff.mp whole.symm).2 filled
    | cons first other => simp [wrapped]
  | cons c cs ih =>
    rw [wrapped]
    split
    · next hfull =>
      cases other with
      | nil => simp at whole
      | cons first other =>
        obtain ⟨hfirst, hother⟩ := List.forall_mem_cons.mp narrow
        obtain ⟨left, hleft⟩ := exists_left hfull.2 hfirst whole
        exact Nat.succ_le_succ (ih left [c] (by simp) hleft hother)
    · exact ih ahead (begun ++ [c]) (by simp) (by simpa using whole) narrow

/-! ## Wrapped lines -/

/-- Where the fragments of a line start that are each as long as can be, one after the other. -/
structure WrapsGreedily (width : Char → Nat) (columns : Nat) (line : List Char)
    (starts : List Nat) : Prop where
  ordered : ∃ rest, starts = 0 :: rest ∧ (0 :: rest).Pairwise (· < ·) ∧
    ∀ start ∈ rest, start < line.length
  pieces : (cutAt line starts).length = starts.length
  whole : (cutAt line starts).flatten = line
  holds : ∀ fragment ∈ cutAt line starts, Holds width columns fragment
  forced : (cutAt line starts).IsChain (IsForced width columns)
  narrow : (∀ c ∈ line, width c ≤ columns) →
    ∀ fragment ∈ cutAt line starts, taken width fragment ≤ columns
  /-- Whatever else the line is cut into. -/
  fewest : line ≠ [] → ∀ other : List (List Char), other.flatten = line →
    (∀ fragment ∈ other, taken width fragment ≤ columns) → starts.length ≤ other.length

theorem lines_are_wrapped_greedily (width : Char → Nat) (h : 0 < columns) (line : List Char) :
    WrapsGreedily width columns line (fragmentStarts width (some columns) line) where
  ordered := exists_fragmentStarts width (some columns) line
  pieces := length_cutAt line _
  whole := by
    rw [cutAt_fragmentStarts width h, flatten_wrapped, List.nil_append]
  holds := by
    rw [cutAt_fragmentStarts width h]
    exact holds_wrapped (.inl (Nat.zero_le columns)) line
  forced := by
    rw [cutAt_fragmentStarts width h]
    exact isChain_wrapped [] line
  narrow := by
    intro hnarrow fragment hfragment
    rw [cutAt_fragmentStarts width h] at hfragment
    have hholds : Holds width columns fragment :=
      holds_wrapped (.inl (Nat.zero_le columns)) line fragment hfragment
    refine hholds.taken_le fun c hc => hnarrow c ?_
    have hmem := List.mem_flatten_of_mem hfragment hc
    rwa [flatten_wrapped, List.nil_append] at hmem
  fewest := by
    intro hfilled other hother hnarrow
    rw [← length_cutAt line, cutAt_fragmentStarts width h]
    exact length_wrapped_le [] [] line hfilled hother hnarrow

theorem lines_are_wrapped_greedily_wide :
    0 < 1 ∧ WrapsGreedily (fun c => if c = '漢' then 2 else if c = '-' then 0 else 1) 1
      ['-', '漢', '-', 'a', '-', 'a'] [0, 2, 5] :=
  ⟨by decide, lines_are_wrapped_greedily (fun c => if c = '漢' then 2 else if c = '-' then 0 else 1)
    (by decide) ['-', '漢', '-', 'a', '-', 'a']⟩

example : fragmentStarts (fun _ => 2) (some 5) ['漢', '字', '漢', '字'] = [0, 2] := by decide

end CodeEditor.Gutter
