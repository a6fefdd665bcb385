import CodeEditor.Proofs.Occurrences.Leftmost
import Mathlib.Data.Finset.Card
import Mathlib.Data.List.Pairwise

/-! # How often a marker is found

The scan from the left finds as many places as there can be without an overlap. Each of any others that
are apart starts in one of those found, and no two of them in the same one, since all places have as many
characters as the marker.
-/

namespace CodeEditor.Occurrences

variable {mode : CaseMode} {marker text : List Char} {places : Finset Span} {s s' : Span}

/-- No byte lies in both. -/
def Apart (s s' : Span) : Prop := s.stop ≤ s'.start ∨ s'.stop ≤ s.start

instance : Std.Symm Apart := ⟨fun _ _ => Or.symm⟩

/-- Places of the marker, each two of them apart. -/
structure IsPacking (mode : CaseMode) (marker text : List Char) (places : Finset Span) : Prop where
  occur : ∀ s ∈ places, IsPlace mode marker text s
  apart : (places : Set Span).Pairwise Apart

theorem IsPacking.card_le (h : IsPacking mode marker text places) (filled : marker ≠ []) :
    places.card ≤ (find mode marker text).length := by
  choose! reached hfound hstart hin hstop using
    fun s hs => exists_found_of_isPlace filled (h.occur s hs)
  have hdistinct : Set.InjOn reached places := by
    intro s hs s' hs' hsame
    by_contra hne
    -- Both start before the place found ends, and neither ends before it does: so they overlap.
    have hfirst := hin s hs
    have hsecond := hin s' hs'
    have hends := hstop s hs
    have hends' := hstop s' hs'
    rw [hsame] at hfirst hends
    rcases h.apart hs hs' hne with hbefore | hafter
    · omega
    · omega
  calc places.card ≤ (find mode marker text).toFinset.card :=
        Finset.card_le_card_of_injOn reached (fun s hs => List.mem_toFinset.mpr (hfound s hs)) hdistinct
    _ ≤ (find mode marker text).length := List.toFinset_card_le _

theorem nodup_find (mode : CaseMode) (marker text : List Char) : (find mode marker text).Nodup := by
  apply (ordered_find mode marker text).imp_of_mem
  rintro s s' hs - hordered rfl
  have := ((leftmost_find mode marker text).whole s hs).2.2
  omega

theorem isPacking_find (mode : CaseMode) (marker text : List Char) :
    IsPacking mode marker text (find mode marker text).toFinset := by
  constructor
  · intro s hs
    exact isPlace_of_mem_find (List.mem_toFinset.mp hs)
  · have hapart : (find mode marker text).Pairwise Apart :=
      (ordered_find mode marker text).imp Or.inl
    rw [List.coe_toFinset]
    exact hapart.set_pairwise

theorem isGreatest_length_find (mode : CaseMode) (filled : marker ≠ []) (text : List Char) :
    IsGreatest {n | ∃ places, IsPacking mode marker text places ∧ places.card = n}
      (find mode marker text).length := by
  constructor
  · exact ⟨_, isPacking_find mode marker text, List.toFinset_card_of_nodup (nodup_find mode marker text)⟩
  · rintro n ⟨places, hpacking, rfl⟩
    exact hpacking.card_le filled

theorem IsPlace.ignored (h : IsPlace .sensitive marker text s) : IsPlace .ignored marker text s := by
  obtain ⟨before, found, after, htext, hstart, hstop, hspells⟩ := h
  refine ⟨before, found, after, htext, hstart, hstop, ?_⟩
  apply hspells.imp
  intro c m hsame
  rw [CaseMode.same_sensitive_iff.mp hsame]
  exact CaseMode.same_ignored_iff.mpr rfl

theorem length_find_sensitive_le (marker text : List Char) :
    (find .sensitive marker text).length ≤ (find .ignored marker text).length := by
  by_cases filled : marker = []
  · simp [find, filled]
  · have hsensitive := isPacking_find .sensitive marker text
    have hpacking : IsPacking .ignored marker text (find .sensitive marker text).toFinset :=
      ⟨fun s hs => (hsensitive.occur s hs).ignored, hsensitive.apart⟩
    rw [← List.toFinset_card_of_nodup (nodup_find .sensitive marker text)]
    exact hpacking.card_le filled

/-- The scan finds as many places as can be apart, so it never finds fewer when case is ignored; but it
can find others. -/
theorem find_finds_most :
    (∀ mode marker text, marker ≠ [] →
      IsGreatest {n | ∃ places, IsPacking mode marker text places ∧ places.card = n}
        (find mode marker text).length) ∧
      (∀ marker text, (find .sensitive marker text).length ≤ (find .ignored marker text).length) ∧
      ∃ marker text, ∃ s ∈ find .sensitive marker text, s ∉ find .ignored marker text := by
  refine ⟨fun mode _ text filled => isGreatest_length_find mode filled text,
    length_find_sensitive_le, ?_⟩
  exact ⟨['a', 'a'], ['A', 'a', 'a'], ⟨1, 3⟩, by decide, by decide⟩

end CodeEditor.Occurrences
