import CodeEditor.Highlight
import CodeEditor.Proofs.Bytes

/-! # Painting

A pass paints the whole text over. What the runs were before it is not to be seen in what they are
after it, as long as all attributes have the same fractions as the base.
-/

namespace CodeEditor

/-! ## Fractions -/

namespace Attributes

/-- The fractions of the two are the same, not only of the same value. -/
def SameFractions (a b : Attributes) : Prop :=
  a.font.size = b.font.size ∧ a.kerning = b.kerning ∧
    a.paragraph.lineSpacing = b.paragraph.lineSpacing

theorem SameFractions.refl (a : Attributes) : SameFractions a a := ⟨rfl, rfl, rfl⟩

theorem SameFractions.symm {a b : Attributes} (h : SameFractions a b) : SameFractions b a :=
  ⟨h.1.symm, h.2.1.symm, h.2.2.symm⟩

theorem SameFractions.trans {a b c : Attributes} (hab : SameFractions a b)
    (hbc : SameFractions b c) : SameFractions a c :=
  ⟨hab.1.trans hbc.1, hab.2.1.trans hbc.2.1, hab.2.2.trans hbc.2.2⟩

theorem SameFractions.isNumeric {a b : Attributes} (h : SameFractions a b) (hb : b.IsNumeric) :
    a.IsNumeric := by
  rw [IsNumeric, h.1, h.2.1, h.2.2]
  exact hb

theorem eq_of_agrees {a b : Attributes} (h : a.agrees b) (same : SameFractions a b) : a = b := by
  rw [agrees_iff] at h
  obtain ⟨⟨h1, -, h2, h3⟩, h4, h5, -, h6, h7, -⟩ := h
  obtain ⟨s1, s2, s3⟩ := same
  obtain ⟨⟨_, _, _, _⟩, _, _, _, _, ⟨_, _⟩⟩ := a
  obtain ⟨⟨_, _, _, _⟩, _, _, _, _, ⟨_, _⟩⟩ := b
  simp only at *
  subst_vars
  rfl

theorem forall₂_agrees_of_alike {l m : List Attributes} (h : List.Forall₂ Alike l m)
    (numeric : ∀ a ∈ l, a.IsNumeric) : List.Forall₂ (fun a b => a.agrees b) l m := by
  induction h with
  | nil => exact .nil
  | cons hab _ ih =>
    rw [List.forall_mem_cons] at numeric
    exact .cons ((alike_iff_agrees numeric.1).mp hab) (ih numeric.2)

end Attributes

/-! ## Attributes of all runs -/

namespace Run

/-- All runs have attributes of some kind. -/
def All (P : Attributes → Prop) (runs : List Run) : Prop := ∀ r ∈ runs, P r.attributes

variable {P : Attributes → Prop}

theorem All.append {as bs : List Run} (ha : All P as) (hb : All P bs) : All P (as ++ bs) :=
  List.forall_mem_append.mpr ⟨ha, hb⟩

theorem all_covering {a : Attributes} (length : Nat) (h : P a) : All P (covering length a) := by
  rw [covering]
  split
  · exact List.forall_mem_nil _
  · exact List.forall_mem_singleton.mpr h

theorem All.splitAt {runs : List Run} (h : All P runs) (position : Nat) :
    All P (splitAt position runs).1 ∧ All P (splitAt position runs).2 := by
  induction runs generalizing position with
  | nil => exact ⟨List.forall_mem_nil _, List.forall_mem_nil _⟩
  | cons r rs ih =>
    obtain ⟨hr, hrs⟩ := List.forall_mem_cons.mp h
    rw [Run.splitAt]
    split
    · exact ⟨List.forall_mem_nil _, h⟩
    · split
      · exact ⟨List.forall_mem_singleton.mpr hr, List.forall_mem_cons.mpr ⟨hr, hrs⟩⟩
      · obtain ⟨h1, h2⟩ := ih hrs (position - r.length)
        exact ⟨List.forall_mem_cons.mpr ⟨hr, h1⟩, h2⟩

theorem All.update {runs : List Run} (h : All P runs) (s : Span) {change : Attributes → Attributes}
    (hchange : ∀ a, P a → P (change a)) : All P (update runs s change) := by
  obtain ⟨h1, h2⟩ := h.splitAt s.start
  obtain ⟨h3, h4⟩ := h2.splitAt (s.stop - s.start)
  rw [Run.update]
  refine (h1.append ?_).append h4
  exact List.forall_mem_map.mpr fun r hr => hchange _ (h3 r hr)

theorem All.replace {runs inserted : List Run} (h : All P runs) (s : Span)
    (hinserted : All P inserted) : All P (replace runs s inserted) := by
  obtain ⟨h1, h2⟩ := h.splitAt s.start
  exact (h1.append hinserted).append (h2.splitAt (s.stop - s.start)).2

theorem All.merge {runs : List Run} (h : All P runs) : All P (merge runs) := by
  induction runs with
  | nil => exact h
  | cons r rs ih =>
    obtain ⟨hr, hrs⟩ := List.forall_mem_cons.mp h
    have hmerged := ih hrs
    rw [Run.merge]
    split
    · exact List.forall_mem_singleton.mpr hr
    · next next rest hnext =>
      rw [hnext] at hmerged
      obtain ⟨hn, hrest⟩ := List.forall_mem_cons.mp hmerged
      split
      · exact List.forall_mem_cons.mpr ⟨hr, hrest⟩
      · exact List.forall_mem_cons.mpr ⟨hr, List.forall_mem_cons.mpr ⟨hn, hrest⟩⟩

theorem All.styles {runs : List Run} (h : All P runs) : ∀ a ∈ styles runs, P a := by
  intro a ha
  obtain ⟨r, hr, hmem⟩ := List.mem_flatMap.mp ha
  rw [List.eq_of_mem_replicate hmem]
  exact h r hr

theorem styles_merge_of_all {runs : List Run} {base : Attributes}
    (h : All (·.SameFractions base) runs) : styles (merge runs) = styles runs := by
  induction runs with
  | nil => rfl
  | cons r rs ih =>
    obtain ⟨hr, hrs⟩ := List.forall_mem_cons.mp h
    have hmerged : All (·.SameFractions base) (merge rs) := All.merge hrs
    rw [styles_cons, ← ih hrs, Run.merge]
    split
    · next hnext => rw [hnext, styles_cons]
    · next next rest hnext =>
      rw [hnext] at hmerged ⊢
      split
      · next hagree =>
        obtain ⟨hn, -⟩ := List.forall_mem_cons.mp hmerged
        have heq := Attributes.eq_of_agrees hagree (hr.trans hn.symm)
        simp only [styles_cons, List.replicate_add, List.append_assoc, heq]
      · rfl

theorem eq_of_sameRuns {as bs : List Run} {base : Attributes} (h : sameRuns as bs)
    (ha : All (·.SameFractions base) as) (hb : All (·.SameFractions base) bs) : as = bs := by
  rw [sameRuns_iff] at h
  induction h with
  | nil => rfl
  | @cons a b as bs hab _ ih =>
    obtain ⟨ha, has⟩ := List.forall_mem_cons.mp ha
    obtain ⟨hb, hbs⟩ := List.forall_mem_cons.mp hb
    rw [ih has hbs]
    congr 1
    have := Attributes.eq_of_agrees hab.2 (ha.trans hb.symm)
    cases a
    cases b
    simp_all

end Run

/-! ## A pass -/

namespace Highlight

theorem all_foldl_restyleRuns {P : Attributes → Prop} (text : List Char) {changes : List Restyle}
    (hchanges : ∀ r ∈ changes, ∀ a, P a → P (r.change a)) {runs : List Run} (h : Run.All P runs) :
    Run.All P (changes.foldl (StyledText.restyleRuns text) runs) := by
  induction changes generalizing runs with
  | nil => exact h
  | cons r rs ih =>
    obtain ⟨hr, hrs⟩ := List.forall_mem_cons.mp hchanges
    refine ih hrs ?_
    rw [StyledText.restyleRuns]
    split
    · exact h
    · exact h.update _ hr

theorem styles_first_stroke {text : List Char} {runs : List Run} (h : Run.Covers text runs)
    (base : Attributes) :
    Run.styles (StyledText.restyleRuns text runs (.attributes ⟨0, Text.byteLength text⟩ base)) =
      List.replicate (Text.byteLength text) base := by
  have hsnap : Text.snap text ⟨0, Text.byteLength text⟩ = ⟨0, Text.byteLength text⟩ :=
    Text.snap_eq_self (Text.isBoundary_zero _) (Text.isBoundary_byteLength _) (Nat.zero_le _)
  rw [StyledText.styles_restyleRuns]
  refine List.eq_replicate_iff.mpr ⟨by simp [h.total_eq], fun a ha => ?_⟩
  obtain ⟨byte, hbyte, rfl⟩ := List.mem_mapIdx.mp ha
  rw [Run.length_styles, h.total_eq] at hbyte
  simp [Restyle.touches, Restyle.attributes, hsnap, hbyte]

variable [Engine]

/-- The changes of a pass: the base first, then the colors. -/
def strokes (compiled : Compiled) (text : List Char) (colors : ColorMap) (base : Attributes) :
    List Restyle :=
  .attributes ⟨0, Text.byteLength text⟩ base ::
    ((compiled.patterns.map (paints colors text)).filterMap id).flatten

theorem pass_eq (compiled : Compiled) (t : StyledText) (colors : ColorMap) (base : Attributes) :
    (pass compiled t colors base).1 = t.restyle (strokes compiled t.text colors base) := rfl

theorem sameFractions_stroke {compiled : Compiled} {text : List Char} {colors : ColorMap}
    {base : Attributes} {r : Restyle} (h : r ∈ strokes compiled text colors base) {a : Attributes}
    (ha : a.SameFractions base) : (r.change a).SameFractions base := by
  rcases List.mem_cons.mp h with rfl | h
  · exact .refl base
  · simp only [List.mem_flatten, List.mem_filterMap, List.mem_map, id] at h
    obtain ⟨painted, ⟨_, ⟨pattern, -, rfl⟩, hpaint⟩, hr⟩ := h
    obtain ⟨color, -, rfl⟩ := Option.map_eq_some_iff.mp hpaint
    obtain ⟨span, -, rfl⟩ := List.mem_map.mp hr
    exact ha

theorem styles_strokes {t u : StyledText} (ht : t.Sound) (hu : u.Sound) (same : t.text = u.text)
    (compiled : Compiled) (colors : ColorMap) (base : Attributes) :
    Run.styles (t.restyledRuns (strokes compiled t.text colors base)) =
      Run.styles (u.restyledRuns (strokes compiled u.text colors base)) := by
  have hcovers := ht.covers
  rw [same] at hcovers
  simp only [StyledText.restyledRuns, strokes, same, List.foldl_cons,
    StyledText.styles_foldl_restyleRuns, styles_first_stroke hcovers, styles_first_stroke hu.covers]

/-- A pass leaves the joined runs of all its strokes, also when it finds nothing to change. -/
theorem runs_pass {t : StyledText} {base : Attributes} (h : Run.All (·.SameFractions base) t.runs)
    (compiled : Compiled) (colors : ColorMap) :
    (pass compiled t colors base).1.runs =
      Run.merge (t.restyledRuns (strokes compiled t.text colors base)) := by
  rw [pass_eq, StyledText.restyle_eq]
  split
  · next hsame =>
    refine (Run.eq_of_sameRuns hsame (Run.All.merge ?_) h).symm
    exact all_foldl_restyleRuns _ (fun r hr a => sameFractions_stroke hr) h
  · rfl

/-- Two texts with the same characters have the same runs after a pass, whatever runs they had. -/
theorem runs_pass_congr {t u : StyledText} {base : Attributes} (ht : t.Sound) (hu : u.Sound)
    (same : t.text = u.text) (ha : Run.All (·.SameFractions base) t.runs)
    (hb : Run.All (·.SameFractions base) u.runs) (numeric : base.IsNumeric) (compiled : Compiled)
    (colors : ColorMap) :
    (pass compiled t colors base).1.runs = (pass compiled u colors base).1.runs := by
  rw [runs_pass ha, runs_pass hb]
  have hstrokes := styles_strokes ht hu same compiled colors base
  have uniform : ∀ {t : StyledText}, Run.All (·.SameFractions base) t.runs →
      Run.All (·.SameFractions base)
        (Run.merge (t.restyledRuns (strokes compiled t.text colors base))) := fun h =>
    (all_foldl_restyleRuns _ (fun r hr a => sameFractions_stroke hr) h).merge
  have hlook : List.Forall₂ Attributes.Alike
      (Run.styles (Run.merge (t.restyledRuns (strokes compiled t.text colors base))))
      (Run.styles (Run.merge (u.restyledRuns (strokes compiled u.text colors base)))) := by
    refine Attributes.forall₂_alike_trans (Run.styles_merge _) ?_
    rw [hstrokes]
    exact Attributes.forall₂_alike_symm (Run.styles_merge _)
  refine Run.eq_of_sameRuns (Run.sameRuns_of_styles ?_ ?_ (Run.separated_merge _)
    (Run.separated_merge _) ?_) (uniform ha) (uniform hb)
  · exact (StyledText.covers_restyledRuns ht _).merge.length_pos
  · exact (StyledText.covers_restyledRuns hu _).merge.length_pos
  · exact Attributes.forall₂_agrees_of_alike hlook
      fun a hmem => ((uniform ha).styles a hmem).isNumeric numeric

theorem styles_pass_congr {t u : StyledText} {base : Attributes} (ht : t.Sound) (hu : u.Sound)
    (same : t.text = u.text) (ha : Run.All (·.SameFractions base) t.runs)
    (hb : Run.All (·.SameFractions base) u.runs) (compiled : Compiled) (colors : ColorMap) :
    Run.styles (pass compiled t colors base).1.runs =
      Run.styles (pass compiled u colors base).1.runs := by
  have uniform : ∀ {t : StyledText}, Run.All (·.SameFractions base) t.runs →
      Run.All (·.SameFractions base) (t.restyledRuns (strokes compiled t.text colors base)) :=
    fun h => all_foldl_restyleRuns _ (fun r hr a => sameFractions_stroke hr) h
  rw [runs_pass ha, runs_pass hb, Run.styles_merge_of_all (uniform ha),
    Run.styles_merge_of_all (uniform hb)]
  exact styles_strokes ht hu same compiled colors base

theorem sound_pass {t : StyledText} (h : t.Sound) (compiled : Compiled) (colors : ColorMap)
    (base : Attributes) : (pass compiled t colors base).1.Sound :=
  StyledText.sound_restyle h _

theorem text_pass (compiled : Compiled) (t : StyledText) (colors : ColorMap) (base : Attributes) :
    (pass compiled t colors base).1.text = t.text :=
  StyledText.text_restyle t _

theorem all_pass {t : StyledText} {base : Attributes} (h : Run.All (·.SameFractions base) t.runs)
    (compiled : Compiled) (colors : ColorMap) :
    Run.All (·.SameFractions base) (pass compiled t colors base).1.runs := by
  rw [runs_pass h]
  exact (all_foldl_restyleRuns _ (fun r hr a => sameFractions_stroke hr) h).merge

end Highlight

end CodeEditor
