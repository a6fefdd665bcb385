import CodeEditor.Proofs.Occurrences.Bytes

/-! # What the scan from the left finds

All that is found spells the marker, one place after the other, and no place of the marker is passed
over but for one found before it: wherever the marker stands, it starts in a place that is found.
-/

namespace CodeEditor

theorem CaseMode.same_sensitive_iff {a b : Char} : CaseMode.sensitive.same a b = true ↔ a = b :=
  beq_iff_eq

theorem CaseMode.same_ignored_iff {a b : Char} :
    CaseMode.ignored.same a b = true ↔ Text.lower a = Text.lower b := by
  simp only [same, Bool.or_eq_true, beq_iff_eq, or_iff_right_iff_imp]
  exact congrArg Text.lower

namespace Occurrences

variable {mode : CaseMode} {marker text found rest : List Char} {ts : List Nat} {start : Nat}
  {s : Span}

/-! ## Places by characters -/

theorem occursAt_append_iff {piece : List Char} :
    OccursAt mode marker (piece ++ rest) (piece.length + start) ↔ OccursAt mode marker rest start := by
  constructor
  · rintro ⟨before, found, after, htext, hlength, hspells⟩
    rw [List.append_assoc] at htext
    obtain ⟨front, back, rfl, hfront⟩ : ∃ front back, before = front ++ back ∧ front.length = piece.length :=
      ⟨before.take piece.length, before.drop piece.length, (List.take_append_drop _ _).symm,
        by simp; omega⟩
    rw [List.append_assoc] at htext
    obtain ⟨rfl, hrest⟩ := List.append_inj htext hfront.symm
    rw [List.length_append] at hlength
    exact ⟨back, found, after, by rw [List.append_assoc]; exact hrest, by omega, hspells⟩
  · rintro ⟨before, found, after, rfl, rfl, hspells⟩
    exact ⟨piece ++ before, found, after, by simp only [List.append_assoc], List.length_append, hspells⟩

theorem occursAt_cons_iff {c : Char} :
    OccursAt mode marker (c :: rest) (start + 1) ↔ OccursAt mode marker rest start := by
  have hiff := @occursAt_append_iff mode marker rest start [c]
  rwa [List.length_singleton, Nat.add_comm] at hiff

theorem OccursAt.inside (h : OccursAt mode marker text start) : start + marker.length ≤ text.length := by
  obtain ⟨before, found, after, rfl, rfl, hspells⟩ := h
  have := hspells.length_eq
  simp only [List.length_append]
  omega

theorem occursAt_zero_iff :
    OccursAt mode marker text 0 ↔ ∃ found after, text = found ++ after ∧ Spells mode marker found := by
  constructor
  · rintro ⟨before, found, after, rfl, hlength, hspells⟩
    obtain rfl := List.eq_nil_of_length_eq_zero hlength
    exact ⟨found, after, rfl, hspells⟩
  · rintro ⟨found, after, rfl, hspells⟩
    exact ⟨[], found, after, rfl, rfl, hspells⟩

theorem Taken.occursAt (h : Taken mode marker text ts) : ∀ t ∈ ts, OccursAt mode marker text t := by
  induction h with
  | done => exact List.forall_mem_nil _
  | @skip c rest ts _ _ ih =>
    rw [List.forall_mem_map]
    intro t ht
    exact occursAt_cons_iff.mpr (ih t ht)
  | @take found rest ts spells _ ih =>
    rw [List.forall_mem_cons, List.forall_mem_map, occursAt_zero_iff]
    refine ⟨⟨found, rest, rfl, spells⟩, ?_⟩
    intro t ht
    rw [Nat.add_comm, ← spells.length_eq]
    exact occursAt_append_iff.mpr (ih t ht)

theorem Taken.ordered (h : Taken mode marker text ts) :
    ts.Pairwise fun t u => t + marker.length ≤ u := by
  induction h with
  | done => exact .nil
  | skip _ _ ih =>
    rw [List.pairwise_map]
    apply ih.imp
    intro t u htu
    omega
  | take _ _ ih =>
    rw [List.pairwise_cons, List.forall_mem_map, List.pairwise_map]
    refine ⟨fun t _ => by omega, ?_⟩
    apply ih.imp
    intro t u htu
    omega

theorem Taken.reaches (h : Taken mode marker text ts) (filled : marker ≠ [])
    (occurs : OccursAt mode marker text start) : ∃ t ∈ ts, t ≤ start ∧ start < t + marker.length := by
  have hpos := List.length_pos_of_ne_nil filled
  -- The scan skips only where the marker does not start; behind a place it takes, it starts anew.
  induction h generalizing start with
  | done =>
    have := occurs.inside
    rw [List.length_nil] at this
    omega
  | @skip c rest ts absent _ ih =>
    cases start with
    | zero => exact absurd (occursAt_zero_iff.mp occurs) absent
    | succ start =>
      obtain ⟨t, ht, hle, hlt⟩ := ih (occursAt_cons_iff.mp occurs)
      exact ⟨t + 1, List.mem_map_of_mem ht, by omega, by omega⟩
  | @take found rest ts spells _ ih =>
    have hlength := spells.length_eq
    rcases Nat.lt_or_ge start marker.length with hin | hpast
    · exact ⟨0, List.mem_cons_self, Nat.zero_le _, by omega⟩
    · obtain ⟨later, rfl⟩ := Nat.exists_eq_add_of_le hpast
      rw [← hlength] at occurs
      obtain ⟨t, ht, hle, hlt⟩ := ih (occursAt_append_iff.mp occurs)
      exact ⟨t + marker.length, List.mem_cons_of_mem _ (List.mem_map_of_mem ht), by omega, by omega⟩

/-! ## Places by bytes -/

/-- The bytes of characters of the text that stand for the marker. -/
def IsPlace (mode : CaseMode) (marker text : List Char) (s : Span) : Prop :=
  ∃ before found after, text = before ++ found ++ after ∧ s.start = Text.byteLength before ∧
    s.stop = Text.byteLength (before ++ found) ∧ Spells mode marker found

theorem isPlace_iff : IsPlace mode marker text s ↔
    ∃ start, OccursAt mode marker text start ∧ s = Text.bytesOf text ⟨start, start + marker.length⟩ := by
  have hbytes : ∀ before found after : List Char, Spells mode marker found →
      Text.bytesOf (before ++ found ++ after) ⟨before.length, before.length + marker.length⟩ =
        ⟨Text.byteLength before, Text.byteLength (before ++ found)⟩ := by
    intro before found after hspells
    have hstop : before.length + marker.length = (before ++ found).length := by
      rw [List.length_append, hspells.length_eq]
    unfold Text.bytesOf Text.byteOffset
    simp only [hstop, List.take_left]
    rw [List.append_assoc, List.take_left]
  constructor
  · rintro ⟨before, found, after, rfl, hstart, hstop, hspells⟩
    refine ⟨before.length, ⟨before, found, after, rfl, rfl, hspells⟩, ?_⟩
    rw [hbytes _ _ _ hspells]
    cases s
    simp_all
  · rintro ⟨_, ⟨before, found, after, rfl, rfl, hspells⟩, rfl⟩
    rw [hbytes _ _ _ hspells]
    exact ⟨before, found, after, rfl, rfl, rfl, hspells⟩

theorem IsPlace.boundaries (h : IsPlace mode marker text s) :
    Text.IsBoundary text s.start ∧ Text.IsBoundary text s.stop := by
  obtain ⟨before, found, after, rfl, hstart, hstop, -⟩ := h
  exact ⟨⟨before, found ++ after, List.append_assoc .., hstart.symm⟩,
    ⟨before ++ found, after, rfl, hstop.symm⟩⟩

theorem IsPlace.lt (h : IsPlace mode marker text s) (filled : marker ≠ []) : s.start < s.stop := by
  obtain ⟨before, found, after, rfl, hstart, hstop, hspells⟩ := h
  have hpos : Text.byteLength found ≠ 0 := by
    rw [ne_eq, Text.byteLength_eq_zero]
    rintro rfl
    exact filled (List.eq_nil_of_length_eq_zero hspells.length_eq.symm)
  rw [hstart, hstop, Text.byteLength_append]
  omega

theorem isPlace_of_mem_find (h : s ∈ find mode marker text) : IsPlace mode marker text s := by
  by_cases filled : marker = []
  · simp [find, filled] at h
  · obtain ⟨ts, hts⟩ := exists_taken filled text
    rw [find_of_taken filled hts, List.mem_map] at h
    obtain ⟨t, ht, rfl⟩ := h
    exact isPlace_iff.mpr ⟨t, hts.occursAt t ht, rfl⟩

theorem ordered_find (mode : CaseMode) (marker text : List Char) :
    (find mode marker text).Pairwise fun s s' => s.stop ≤ s'.start := by
  by_cases filled : marker = []
  · simp [find, filled]
  · obtain ⟨ts, hts⟩ := exists_taken filled text
    rw [find_of_taken filled hts, List.pairwise_map]
    apply hts.ordered.imp
    intro t u htu
    exact Text.byteOffset_mono text htu

theorem exists_found_of_isPlace (filled : marker ≠ []) (h : IsPlace mode marker text s) :
    ∃ found ∈ find mode marker text,
      found.start ≤ s.start ∧ s.start < found.stop ∧ found.stop ≤ s.stop := by
  obtain ⟨start, hoccurs, rfl⟩ := isPlace_iff.mp h
  obtain ⟨ts, hts⟩ := exists_taken filled text
  obtain ⟨t, ht, hle, hlt⟩ := hts.reaches filled hoccurs
  have hpos := List.length_pos_of_ne_nil filled
  have hinside : start < text.length := by
    have := hoccurs.inside
    omega
  refine ⟨Text.bytesOf text ⟨t, t + marker.length⟩, ?_, ?_, ?_, ?_⟩
  · rw [find_of_taken filled hts]
    exact List.mem_map_of_mem ht
  · exact Text.byteOffset_mono text hle
  · exact (Text.byteOffset_lt_iff hinside _).mpr hlt
  · exact Text.byteOffset_mono text (Nat.add_le_add_right hle _)

/-! ## What is found -/

/-- These stretches of bytes are what a scan from the left makes of a text. -/
structure Leftmost (mode : CaseMode) (marker text : List Char) (found : List Span) : Prop where
  unmarked : marker = [] → found = []
  /-- They are the bytes of the places that the scan takes, and it can take no others. -/
  taken : marker ≠ [] → ∃ ts, Taken mode marker text ts ∧
    (∀ us, Taken mode marker text us → us = ts) ∧
    found = ts.map fun t => Text.bytesOf text ⟨t, t + marker.length⟩
  spells : ∀ s ∈ found, IsPlace mode marker text s
  whole : ∀ s ∈ found, Text.IsBoundary text s.start ∧ Text.IsBoundary text s.stop ∧ s.start < s.stop
  ordered : found.Pairwise fun s s' => s.stop ≤ s'.start
  /-- No place of the marker is apart from all of them. -/
  reached : marker ≠ [] → ∀ s, IsPlace mode marker text s →
    ∃ s' ∈ found, s'.start < s.stop ∧ s.start < s'.stop

theorem leftmost_find (mode : CaseMode) (marker text : List Char) :
    Leftmost mode marker text (find mode marker text) where
  unmarked := by
    rintro rfl
    rfl
  taken filled := by
    obtain ⟨ts, hts⟩ := exists_taken filled text
    exact ⟨ts, hts, fun us hus => hus.unique filled hts, find_of_taken filled hts⟩
  spells _ hs := isPlace_of_mem_find hs
  whole s hs := by
    have hplace := isPlace_of_mem_find hs
    have filled : marker ≠ [] := by
      rintro rfl
      exact List.not_mem_nil hs
    exact ⟨hplace.boundaries.1, hplace.boundaries.2, hplace.lt filled⟩
  ordered := ordered_find mode marker text
  reached filled s hs := by
    obtain ⟨s', hs', hle, hlt, -⟩ := exists_found_of_isPlace filled hs
    exact ⟨s', hs', hle.trans_lt (hs.lt filled), hlt⟩

/-- In both modes the scan finds what stands for the marker, from the left and without overlaps, by
equal characters or by equal lowercase texts; and where cases are told apart, a search for the bytes of
the marker finds the same. -/
theorem find_scans_from_left :
    (∀ mode marker text, Leftmost mode marker text (find mode marker text)) ∧
      (∀ a b, CaseMode.sensitive.same a b = true ↔ a = b) ∧
      (∀ a b, CaseMode.ignored.same a b = true ↔ Text.lower a = Text.lower b) ∧
      ∀ marker text, marker ≠ [] →
        find .sensitive marker text =
          Text.Utf8.search (Text.Utf8.encode marker) 0 0 (Text.Utf8.encode text) := by
  refine ⟨leftmost_find, fun _ _ => CaseMode.same_sensitive_iff,
    fun _ _ => CaseMode.same_ignored_iff, ?_⟩
  intro marker text filled
  rw [search_encode filled, find, if_neg (by simpa using filled)]

-- The Kelvin sign takes three bytes, and `k` one.
example : find .ignored ['k', 'k'] ['k', 'k', 'k', '\u212A', 'K'] = [⟨0, 2⟩, ⟨2, 6⟩] := by
  decide +kernel

end Occurrences

end CodeEditor
