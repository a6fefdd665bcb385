import CodeEditor.PlacedText
import CodeEditor.Proofs.Runs

/-! # Runs by length and runs by offset

Runs by length that lie one behind the other have offsets, and every operation on the offsets is the
operation on the lengths. The runs are cut at both ends of a span into those before, in and behind it; the
searches find the places between these, as no run is empty.
-/

namespace CodeEditor

open Machine

namespace Run

variable {runs before inside after : List Run} {position n : Nat}

/-! ## Offsets -/

@[simp] theorem placed_nil (position : Nat) : placed position [] = [] := rfl

@[simp] theorem placed_cons (position : Nat) (r : Run) (rs : List Run) :
    placed position (r :: rs) =
      ⟨⟨position, position + r.length⟩, r.attributes⟩ :: placed (position + r.length) rs := rfl

@[simp] theorem length_placed (position : Nat) (runs : List Run) :
    (placed position runs).length = runs.length := by
  induction runs generalizing position with
  | nil => rfl
  | cons r rs ih => simp [ih]

theorem placed_append (position : Nat) (a b : List Run) :
    placed position (a ++ b) = placed position a ++ placed (position + total a) b := by
  induction a generalizing position with
  | nil => simp [total]
  | cons r rs ih => simp [ih, total, Nat.add_assoc]

/-! ## Runs that are not empty -/

def Filled (runs : List Run) : Prop := ∀ r ∈ runs, 0 < r.length

theorem filled_append : Filled (before ++ after) ↔ Filled before ∧ Filled after :=
  List.forall_mem_append

theorem filled_cons {r : Run} : Filled (r :: runs) ↔ 0 < r.length ∧ Filled runs :=
  List.forall_mem_cons

theorem bounds_of_mem_placed (filled : Filled runs) :
    ∀ r ∈ placed position runs,
      position ≤ r.span.start ∧ r.span.start < r.span.stop ∧ r.span.stop ≤ position + total runs := by
  induction runs generalizing position with
  | nil => simp
  | cons r rs ih =>
    obtain ⟨hr, hrs⟩ := filled_cons.mp filled
    rw [placed_cons, List.forall_mem_cons]
    simp only [total]
    refine ⟨by omega, fun x hx => ?_⟩
    have := ih hrs x hx
    omega

/-! ## Cuts -/

theorem splitAt_cases (n : Nat) (filled : Filled runs) :
    (total runs ≤ n ∧ splitAt n runs = (runs, [])) ∨
      ∃ before r after, runs = before ++ r :: after ∧ total before ≤ n ∧ n < total before + r.length ∧
        splitAt n runs =
          if n = total before then (before, r :: after)
          else (before ++ [⟨n - total before, r.attributes⟩],
            ⟨r.length - (n - total before), r.attributes⟩ :: after) := by
  induction runs generalizing n with
  | nil => exact Or.inl ⟨Nat.zero_le _, rfl⟩
  | cons r rs ih =>
    obtain ⟨hr, hrs⟩ := filled_cons.mp filled
    rw [splitAt]
    by_cases hzero : n = 0
    · exact Or.inr ⟨[], r, rs, rfl, Nat.zero_le _, by simp [total]; omega, by simp [hzero, total]⟩
    by_cases hin : n < r.length
    · refine Or.inr ⟨[], r, rs, rfl, Nat.zero_le _, by simpa [total] using hin, ?_⟩
      simp [hzero, hin, total]
    · rcases ih (n - r.length) hrs with ⟨hbehind, hsplit⟩ | ⟨before, x, after, rfl, hle, hlt, hsplit⟩
      · refine Or.inl ⟨by simp only [total]; omega, ?_⟩
        simp [hzero, hin, hsplit]
      · have htotal : total (r :: before) = r.length + total before := rfl
        have hsame : n - r.length = total before ↔ n = total (r :: before) := by omega
        have hrest : n - total (r :: before) = n - r.length - total before := by omega
        refine Or.inr ⟨r :: before, x, after, rfl, by omega, by omega, ?_⟩
        simp only [hzero, hin, if_false, hsplit, hsame, hrest]
        split <;> rfl

theorem filled_splitAt (n : Nat) (filled : Filled runs) :
    Filled (splitAt n runs).1 ∧ Filled (splitAt n runs).2 := by
  rcases splitAt_cases n filled with ⟨-, hsplit⟩ | ⟨before, r, after, rfl, hle, hlt, hsplit⟩
  · rw [hsplit]
    exact ⟨filled, List.forall_mem_nil _⟩
  · obtain ⟨hbefore, hrest⟩ := filled_append.mp filled
    obtain ⟨-, hafter⟩ := filled_cons.mp hrest
    rw [hsplit]
    split
    · exact ⟨hbefore, hrest⟩
    · refine ⟨filled_append.mpr ⟨hbefore, filled_cons.mpr ⟨?_, List.forall_mem_nil _⟩⟩,
        filled_cons.mpr ⟨?_, hafter⟩⟩
      · simp only
        omega
      · simp only
        omega

theorem filled_covering (length : Nat) (a : Attributes) : Filled (covering length a) := by
  rw [covering]
  split
  · exact List.forall_mem_nil _
  · next hlength => exact List.forall_mem_singleton.mpr (Nat.pos_of_ne_zero hlength)

theorem filled_replace {inserted : List Run} (filled : Filled runs) (new : Filled inserted) (s : Span) :
    Filled (replace runs s inserted) := by
  obtain ⟨hbefore, hrest⟩ := filled_splitAt s.start filled
  obtain ⟨-, hafter⟩ := filled_splitAt (s.stop - s.start) hrest
  exact filled_append.mpr ⟨filled_append.mpr ⟨hbefore, new⟩, hafter⟩

theorem total_splitAt_fst (inside : n ≤ total runs) : total (splitAt n runs).1 = n := by
  rw [← length_styles, (styles_splitAt n runs).1, List.length_take, length_styles]
  exact Nat.min_eq_left inside

theorem splitAt_append (filled : Filled before) (n : Nat) (after : List Run) :
    splitAt (total before + n) (before ++ after) =
      (before ++ (splitAt n after).1, (splitAt n after).2) := by
  induction before with
  | nil => simp [total]
  | cons r rs ih =>
    obtain ⟨hr, hrs⟩ := filled_cons.mp filled
    have htotal : total (r :: rs) = r.length + total rs := rfl
    have hrest : total (r :: rs) + n - r.length = total rs + n := by omega
    rw [List.cons_append, splitAt, if_neg (by omega), if_neg (by omega), hrest, ih hrs]
    rfl

/-- The runs before, in and behind a span. -/
structure CutAround (runs : List Run) (s : Span) (before inside after : List Run) : Prop where
  splitBefore : (splitAt s.start runs).1 = before
  splitInside : (splitAt (s.stop - s.start) (splitAt s.start runs).2).1 = inside
  splitAfter : (splitAt (s.stop - s.start) (splitAt s.start runs).2).2 = after
  filledBefore : Filled before
  filledInside : Filled inside
  filledAfter : Filled after
  start : total before = s.start
  stop : s.start + total inside = s.stop
  rest : s.stop + total after = total runs

theorem exists_cutAround (filled : Filled runs) {s : Span} (ordered : s.start ≤ s.stop)
    (within : s.stop ≤ total runs) : ∃ before inside after, CutAround runs s before inside after := by
  obtain ⟨hbefore, hrest⟩ := filled_splitAt s.start filled
  obtain ⟨hinside, hafter⟩ := filled_splitAt (s.stop - s.start) hrest
  have hstart := total_splitAt_fst (ordered.trans within)
  have hlength := total_splitAt s.start runs
  have hstop : total (splitAt (s.stop - s.start) (splitAt s.start runs).2).1 = s.stop - s.start :=
    total_splitAt_fst (by omega)
  have hlengths := total_splitAt (s.stop - s.start) (splitAt s.start runs).2
  exact ⟨_, _, _, rfl, rfl, rfl, hbefore, hinside, hafter, hstart, by omega, by omega⟩

theorem CutAround.replace_eq {s : Span} (h : CutAround runs s before inside after)
    (inserted : List Run) : replace runs s inserted = before ++ inserted ++ after := by
  simp only [replace, h.splitBefore, h.splitAfter]

theorem CutAround.update_eq {s : Span} (h : CutAround runs s before inside after)
    (change : Attributes → Attributes) :
    update runs s change =
      before ++ inside.map (fun r => { r with attributes := change r.attributes }) ++ after := by
  simp only [update, h.splitBefore, h.splitInside, h.splitAfter]

/-! ## Joining -/

theorem exists_merge_cons (r : Run) (rs : List Run) :
    ∃ n rest, merge (r :: rs) = ⟨n, r.attributes⟩ :: rest := by
  rw [merge]
  split
  · exact ⟨r.length, [], rfl⟩
  · split
    · exact ⟨_, _, rfl⟩
    · exact ⟨_, _, rfl⟩

/-- Joining from the left comes to the same: what looks like the second of two runs that look the same
looks like the first. -/
theorem merge_joined {r next : Run} (same : r.attributes.agrees next.attributes) (rs : List Run) :
    merge (r :: next :: rs) = merge (⟨r.length + next.length, r.attributes⟩ :: rs) := by
  have hnext : ∀ a : Attributes, next.attributes.agrees a = r.attributes.agrees a := by
    intro a
    rw [Bool.eq_iff_iff]
    exact ⟨Attributes.agrees_trans same, Attributes.agrees_trans (Attributes.agrees_symm same)⟩
  cases hrest : merge rs with
  | nil => simp [merge, hrest, same]
  | cons x xs =>
    cases hsame : r.attributes.agrees x.attributes <;>
      simp [merge, hrest, hnext, hsame, same, Nat.add_assoc]

theorem merge_apart {r next : Run} (apart : r.attributes.agrees next.attributes = false)
    (rs : List Run) : merge (r :: next :: rs) = r :: merge (next :: rs) := by
  obtain ⟨n, rest, hnext⟩ := exists_merge_cons next rs
  rw [merge, hnext]
  simp [apart]

end Run

namespace PlacedRun

open Run (placed Filled CutAround)

variable {runs before inside after : List Run} {position byte : Nat}

/-! ## Searches -/

theorem partitionPoint?_append {p : PlacedRun → Bool} {front back : List PlacedRun}
    (hfront : ∀ r ∈ front, p r = true) (hback : ∀ r ∈ back, p r = false) :
    partitionPoint? p (front ++ back) = some front.length := by
  have hdrop : (front ++ back).dropWhile p = back := by
    rw [List.dropWhile_append_of_pos hfront]
    cases back with
    | nil => rfl
    | cons r rs => rw [List.dropWhile_cons_of_neg]; simp [hback r List.mem_cons_self]
  have htake : (front ++ back).takeWhile p = front := by
    rw [List.takeWhile_append_of_pos hfront]
    cases back with
    | nil => simp
    | cons r rs => rw [List.takeWhile_cons_of_neg]; simp; simp [hback r List.mem_cons_self]
  have hnone : back.any p = false := List.any_eq_false.mpr fun r hr => by simp [hback r hr]
  rw [partitionPoint?, hdrop, htake, hnone]
  rfl

theorem partitionPoint?_stop (filled : Filled before) (hle : position + Run.total before ≤ byte)
    (hlt : ∀ r ∈ placed (position + Run.total before) after, byte < r.span.stop) :
    partitionPoint? (·.span.stop ≤ byte) (placed position (before ++ after)) = some before.length := by
  rw [Run.placed_append, ← Run.length_placed position before]
  apply partitionPoint?_append
  · intro r hr
    have := Run.bounds_of_mem_placed filled r hr
    simp only [decide_eq_true_iff]
    omega
  · intro r hr
    have := hlt r hr
    simp only [decide_eq_false_iff_not]
    omega

theorem partitionPoint?_start (hbefore : Filled before) (hafter : Filled after)
    (hbyte : position + Run.total before = byte) :
    partitionPoint? (·.span.start < byte) (placed position (before ++ after)) =
      some before.length := by
  rw [Run.placed_append, ← Run.length_placed position before]
  apply partitionPoint?_append
  · intro r hr
    have := Run.bounds_of_mem_placed hbefore r hr
    simp only [decide_eq_true_iff]
    omega
  · intro r hr
    have := Run.bounds_of_mem_placed hafter r hr
    simp only [decide_eq_false_iff_not]
    omega

theorem getElem?_placed (position : Nat) (before : List Run) (r : Run) (after : List Run) :
    (placed position (before ++ r :: after))[before.length]? =
      some ⟨⟨position + Run.total before, position + Run.total before + r.length⟩, r.attributes⟩ := by
  rw [Run.placed_append, List.getElem?_append_right (by simp)]
  simp

theorem indexAt?_inside {r : Run} (filled : Filled (before ++ r :: after))
    (hle : position + Run.total before ≤ byte) (hlt : byte < position + Run.total before + r.length) :
    indexAt? byte (placed position (before ++ r :: after)) = some (some before.length) := by
  obtain ⟨hbefore, hrest⟩ := Run.filled_append.mp filled
  obtain ⟨-, hafter⟩ := Run.filled_cons.mp hrest
  have hbehind : ∀ x ∈ placed (position + Run.total before) (r :: after), byte < x.span.stop := by
    rw [Run.placed_cons, List.forall_mem_cons]
    refine ⟨hlt, fun x hx => ?_⟩
    have := Run.bounds_of_mem_placed hafter x hx
    omega
  simp only [indexAt?, partitionPoint?_stop hbefore hle hbehind, getElem?_placed, hle, if_true,
    Option.bind_eq_bind, Option.bind_some]

theorem indexAt?_behind (filled : Filled runs) (behind : position + Run.total runs ≤ byte) :
    indexAt? byte (placed position runs) = some none := by
  have hpoint : partitionPoint? (·.span.stop ≤ byte) (placed position (runs ++ [])) =
      some runs.length :=
    partitionPoint?_stop filled behind (List.forall_mem_nil _)
  have hnone : (placed position runs)[runs.length]? = none := List.getElem?_eq_none (by simp)
  rw [List.append_nil] at hpoint
  simp only [indexAt?, hpoint, hnone, Option.bind_eq_bind, Option.bind_some]

/-! ## Cuts -/

theorem insertIdx_length (front : List PlacedRun) (r : PlacedRun) (back : List PlacedRun) :
    (front ++ back).insertIdx front.length r = front ++ r :: back := by
  induction front with
  | nil => rfl
  | cons x xs ih => rw [List.cons_append, List.length_cons, List.insertIdx_succ_cons, ih, List.cons_append]

theorem insert?_append (front : List PlacedRun) (r : PlacedRun) (back : List PlacedRun) :
    insert? front.length r (front ++ back) = some (front ++ r :: back) := by
  rw [insert?, if_pos (by simp), insertIdx_length]

theorem splitAt?_placed (filled : Filled runs) (hbyte : position ≤ byte) :
    splitAt? byte (placed position runs) =
      some (placed position
        ((Run.splitAt (byte - position) runs).1 ++ (Run.splitAt (byte - position) runs).2)) := by
  rcases Run.splitAt_cases (byte - position) filled with
    ⟨hbehind, hsplit⟩ | ⟨before, r, after, rfl, hle, hlt, hsplit⟩
  · have hindex : indexAt? byte (placed position runs) = some none :=
      indexAt?_behind filled (by omega)
    simp only [splitAt?, hindex, hsplit, List.append_nil, Option.bind_eq_bind, Option.bind_some]
  · have hindex : indexAt? byte (placed position (before ++ r :: after)) = some (some before.length) :=
      indexAt?_inside filled (by omega) (by omega)
    simp only [splitAt?, hindex, getElem?_placed, hsplit, Option.bind_eq_bind, Option.bind_some]
    by_cases hstart : byte - position = Run.total before
    · rw [if_pos (by omega), if_pos hstart]
    · rw [if_neg (by omega), if_neg hstart]
      have hmiddle : position + Run.total before + (byte - position - Run.total before) = byte := by
        omega
      have hstop : byte + (r.length - (byte - position - Run.total before)) =
          position + Run.total before + r.length := by
        omega
      -- The run is cut short where it stands, and what is cut off is put behind it.
      let short : PlacedRun := ⟨⟨position + Run.total before, byte⟩, r.attributes⟩
      have hset : (placed position (before ++ r :: after)).set before.length short =
          (placed position before ++ [short]) ++
            placed (position + Run.total before + r.length) after := by
        rw [Run.placed_append, List.set_append_right _ _ (by simp)]
        simp
      have hlength : before.length + 1 = (placed position before ++ [short]).length := by simp
      rw [hset, hlength, insert?_append]
      simp [short, Run.placed_append, hmiddle, hstop]

theorem splitAround?_placed {s : Span} (filled : Filled runs) (ordered : s.start ≤ s.stop)
    (cut : CutAround runs s before inside after) :
    splitAround? s (placed 0 runs) = some (placed 0 (before ++ inside ++ after)) := by
  obtain ⟨hbefore, hrest⟩ := Run.filled_splitAt s.start filled
  have hfirst := splitAt?_placed filled (Nat.zero_le s.start)
  have hsecond := splitAt?_placed (Run.filled_append.mpr ⟨hbefore, hrest⟩) (Nat.zero_le s.stop)
  have hsplit := Run.splitAt_append hbefore (s.stop - s.start) (Run.splitAt s.start runs).2
  rw [cut.splitBefore, cut.start, Nat.add_sub_cancel' ordered] at hsplit
  rw [Nat.sub_zero] at hfirst hsecond
  rw [cut.splitBefore, hsplit, cut.splitInside, cut.splitAfter] at hsecond
  simp only [splitAround?, hfirst, cut.splitBefore, hsecond, Option.bind_eq_bind, Option.bind_some]

/-! ## Replacing -/

variable {counts : Nat → Bool} {s : Span}

theorem placed_behind (cut : CutAround runs s before inside after) (rest : List Run) :
    placed 0 (before ++ rest) = placed 0 before ++ placed s.start rest := by
  rw [Run.placed_append, Nat.zero_add, cut.start]

theorem placed_parts (cut : CutAround runs s before inside after) :
    placed 0 (before ++ inside ++ after) =
      placed 0 before ++ (placed s.start inside ++ placed s.stop after) := by
  rw [List.append_assoc, placed_behind cut, Run.placed_append, cut.stop]

theorem firstOf_placed (cut : CutAround runs s before inside after) :
    partitionPoint? (·.span.stop ≤ s.start) (placed 0 (before ++ inside ++ after)) =
      some before.length := by
  rw [List.append_assoc]
  apply partitionPoint?_stop cut.filledBefore
  · rw [Nat.zero_add, cut.start]
  · intro r hr
    have := Run.bounds_of_mem_placed (Run.filled_append.mpr ⟨cut.filledInside, cut.filledAfter⟩) r hr
    rw [cut.start] at this
    omega

theorem lastOf_placed (cut : CutAround runs s before inside after) :
    partitionPoint? (·.span.start < s.stop) (placed 0 (before ++ inside ++ after)) =
      some (before ++ inside).length := by
  apply partitionPoint?_start (Run.filled_append.mpr ⟨cut.filledBefore, cut.filledInside⟩)
    cut.filledAfter
  rw [Run.total_append, cut.start, cut.stop, Nat.zero_add]

theorem cutAt?_append (front back : List PlacedRun) :
    cutAt? front.length (front ++ back) = some (front, back) := by
  rw [cutAt?, if_pos (by simp), List.take_left, List.drop_left]

theorem moveOffset?_eq {removed offset inserted : Nat} (behind : removed ≤ offset)
    (fits : counts (offset - removed + inserted)) :
    moveOffset? counts removed inserted offset = some (offset - removed + inserted) := by
  simp only [moveOffset?, sub?_eq behind, held?_eq fits, Option.bind_eq_bind, Option.bind_some]

theorem mapM_move? {removed inserted start : Nat} (behind : removed ≤ start)
    (fits : ∀ n ≤ start + Run.total runs - removed + inserted, counts n) :
    (placed start runs).mapM (move? counts removed inserted) =
      some (placed (start - removed + inserted) runs) := by
  induction runs generalizing start with
  | nil => rfl
  | cons r rs ih =>
    simp only [Run.total] at fits
    have hbehind : removed ≤ start + r.length := Nat.le_add_right_of_le behind
    have hstart := moveOffset?_eq behind (fits (start - removed + inserted) (by omega))
    have hstop := moveOffset?_eq hbehind (fits (start + r.length - removed + inserted) (by omega))
    have hrest := ih hbehind fun n hn => fits n (by omega)
    have hnext : start + r.length - removed + inserted = start - removed + inserted + r.length := by
      omega
    simp only [Run.placed_cons, List.mapM_cons, move?, hstart, hstop, hrest, hnext,
      Option.bind_eq_bind, Option.bind_some, Option.pure_def]

theorem replace?_placed (filled : Filled runs) (ordered : s.start ≤ s.stop)
    (within : s.stop ≤ Run.total runs) {inserted : Nat} (a : Attributes)
    (fits : ∀ n ≤ Run.total runs + inserted, counts n) :
    replace? counts s inserted a (placed 0 runs) =
      some (placed 0 (Run.replace runs s (Run.covering inserted a))) := by
  obtain ⟨before, inside, after, cut⟩ := Run.exists_cutAround filled ordered within
  have hrest := cut.rest
  have hback : s.stop - (s.stop - s.start) + inserted = s.start + inserted := by omega
  have hmove : (placed s.stop after).mapM (move? counts (s.stop - s.start) inserted) =
      some (placed (s.stop - (s.stop - s.start) + inserted) after) :=
    mapM_move? (Nat.sub_le s.stop s.start) fun n hn => fits n (by omega)
  have hlength : (before ++ inside).length = (placed 0 before ++ placed s.start inside).length := by
    simp
  have hdrain : drain? before.length (before ++ inside).length
      (placed 0 (before ++ inside ++ after)) = some (placed 0 before ++ placed s.stop after) := by
    rw [drain?, if_pos (by simp), placed_parts cut, List.take_left' (by simp), ← List.append_assoc,
      hlength, List.drop_left]
  have hcut := cutAt?_append (placed 0 before) (placed s.stop after)
  have hinsert := insert?_append (placed 0 before) ⟨⟨s.start, s.start + inserted⟩, a⟩
    (placed (s.start + inserted) after)
  rw [Run.length_placed] at hcut hinsert
  rw [hback] at hmove
  rw [cut.replace_eq]
  simp only [replace?, splitAround?_placed filled ordered cut, firstOf_placed cut, lastOf_placed cut,
    hdrain, hcut, hmove, hinsert, sub?_eq ordered, held?_eq (fits (s.start + inserted) (by omega)),
    Option.bind_eq_bind, Option.bind_some]
  by_cases hnone : inserted = 0
  · simp [hnone, Run.covering, placed_behind cut]
  · simp [hnone, Nat.pos_of_ne_zero hnone, Run.covering, placed_behind cut]

/-! ## Changing attributes -/

theorem changeBefore_placed (change : Attributes → Attributes) (hinside : Filled inside)
    (hafter : Filled after) {start stop : Nat} (hstop : start + Run.total inside = stop) :
    changeBefore stop change (placed start (inside ++ after)) =
      placed start (inside.map (fun r => { r with attributes := change r.attributes }) ++ after) := by
  induction inside generalizing start with
  | nil =>
    cases after with
    | nil => rfl
    | cons r rs =>
      simp only [Run.total, Nat.add_zero] at hstop
      simp [changeBefore, hstop]
  | cons r rs ih =>
    obtain ⟨hr, hrs⟩ := Run.filled_cons.mp hinside
    simp only [Run.total] at hstop
    simp only [List.cons_append, List.map_cons, Run.placed_cons, changeBefore]
    rw [if_neg (by omega), ih hrs (by omega)]

theorem update?_placed (filled : Filled runs) (ordered : s.start ≤ s.stop)
    (within : s.stop ≤ Run.total runs) (change : Attributes → Attributes) :
    update? s change (placed 0 runs) = some (placed 0 (Run.update runs s change)) := by
  obtain ⟨before, inside, after, cut⟩ := Run.exists_cutAround filled ordered within
  have hcut := cutAt?_append (placed 0 before) (placed s.start (inside ++ after))
  have hchange := changeBefore_placed change cut.filledInside cut.filledAfter cut.stop
  rw [Run.length_placed, ← placed_behind cut, ← List.append_assoc] at hcut
  simp only [update?, splitAround?_placed filled ordered cut, firstOf_placed cut, hcut, hchange,
    cut.update_eq, Option.bind_eq_bind, Option.bind_some]
  rw [List.append_assoc, placed_behind cut]

/-! ## Joining -/

theorem joinInto_placed (r : Run) (rs : List Run) :
    joinInto ⟨⟨position, position + r.length⟩, r.attributes⟩ (placed (position + r.length) rs) =
      placed position (Run.merge (r :: rs)) := by
  induction rs generalizing position r with
  | nil => rfl
  | cons next rs ih =>
    cases hsame : r.attributes.agrees next.attributes with
    | true =>
      have hjoined := @ih position ⟨r.length + next.length, r.attributes⟩
      simp only [← Nat.add_assoc] at hjoined
      simp [joinInto, hsame, Run.merge_joined hsame, hjoined]
    | false => simp [joinInto, hsame, Run.merge_apart hsame, ih]

theorem coalesce_placed (filled : Filled runs) :
    coalesce (placed position runs) = placed position (Run.merge runs) := by
  have hfilter : (placed position runs).filter (!·.span.isEmpty) = placed position runs := by
    rw [List.filter_eq_self]
    intro r hr
    have := Run.bounds_of_mem_placed filled r hr
    simp only [Span.isEmpty, Bool.not_eq_true', decide_eq_false_iff_not]
    omega
  rw [coalesce, hfilter]
  cases runs with
  | nil => rfl
  | cons r rs => exact joinInto_placed r rs

theorem sameRuns_placed (position : Nat) (as bs : List Run) :
    sameRuns (placed position as) (placed position bs) = Run.sameRuns as bs := by
  induction as generalizing position bs with
  | nil => cases bs <;> rfl
  | cons a as ih =>
    cases bs with
    | nil => rfl
    | cons b bs =>
      have hspan : ((⟨position, position + a.length⟩ : Span) == ⟨position, position + b.length⟩) =
          (a.length == b.length) := by
        rw [Bool.eq_iff_iff]
        simp
      simp only [Run.placed_cons, sameRuns, Run.sameRuns, hspan]
      cases hlength : a.length == b.length with
      | false => rfl
      | true => rw [beq_iff_eq.mp hlength, ih]

end PlacedRun

end CodeEditor
