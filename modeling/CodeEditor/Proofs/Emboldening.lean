import CodeEditor.Proofs.Layers
import CodeEditor.Proofs.Occurrences

/-! # Markers in bold

A marker makes the characters bold that lie in the places where it is taken, and leaves their colors
alone. Markers one after the other make those of all of them bold.
-/

namespace CodeEditor

namespace Attributes

@[simp] theorem bolded_bolded (a : Attributes) : a.bolded.bolded = a.bolded := by
  simp [bolded, withFont, Font.bolded, Weight.bolded_bolded]

end Attributes

namespace Occurrences

variable {mode : CaseMode} {marker text : List Char} {ts : List Nat} {index : Nat}

/-- The character lies in one of the places at which the marker is taken. -/
def Marked (mode : CaseMode) (marker text : List Char) (index : Nat) : Prop :=
  ∃ ts, Taken mode marker text ts ∧ ∃ t ∈ ts, t ≤ index ∧ index < t + marker.length

theorem ne_nil_of_marked (h : Marked mode marker text index) : marker ≠ [] := by
  rintro rfl
  obtain ⟨ts, -, t, -, hle, hlt⟩ := h
  rw [List.length_nil] at hlt
  omega

theorem marked_iff_of_taken (h : Taken mode marker text ts) :
    Marked mode marker text index ↔ ∃ t ∈ ts, t ≤ index ∧ index < t + marker.length := by
  constructor
  · intro hmarked
    have some := ne_nil_of_marked hmarked
    obtain ⟨us, hus, hin⟩ := hmarked
    rw [h.unique some hus]
    exact hin
  · intro hin
    exact ⟨ts, h, hin⟩

theorem isWhole_find (mode : CaseMode) (marker text : List Char) :
    ∀ s ∈ find mode marker text, Text.IsWhole text s := by
  by_cases some : marker = []
  · simp [find, some]
  · obtain ⟨ts, hts⟩ := exists_taken some text
    have hpos := List.length_pos_of_ne_nil some
    rw [find_of_taken some hts, List.forall_mem_map]
    intro t ht
    have := hts.inside t ht
    have hfilled : Text.byteOffset text t < Text.byteOffset text (t + marker.length) := by
      rw [Text.byteOffset_lt_iff (by omega)]
      omega
    exact ⟨Text.isBoundary_byteOffset text _, Text.isBoundary_byteOffset text _, hfilled⟩

theorem any_find_iff (inside : index < text.length) :
    ((find mode marker text).any fun s =>
      s.start ≤ Text.byteOffset text index && Text.byteOffset text index < s.stop) = true ↔
      Marked mode marker text index := by
  by_cases some : marker = []
  · simp only [find, some, List.isEmpty_nil, if_true, List.any_nil, Bool.false_eq_true, false_iff]
    intro hmarked
    exact ne_nil_of_marked hmarked rfl
  · obtain ⟨ts, hts⟩ := exists_taken some text
    rw [find_of_taken some hts, marked_iff_of_taken hts]
    simp only [List.any_map, List.any_eq_true, Function.comp_apply, Text.bytesOf, Bool.and_eq_true,
      decide_eq_true_iff, Text.byteOffset_le_iff inside, Text.byteOffset_lt_iff inside]

end Occurrences

namespace StyledText

variable {t : StyledText} {index : Nat} {a : Attributes}

/-! ## One marker -/

theorem embolden_eq (t : StyledText) (mode : CaseMode) (marker : List Char) :
    (t.embolden mode marker).1 =
      if Occurrences.find mode marker t.text = [] then t
      else t.restyle ((Occurrences.find mode marker t.text).map .bold) := by
  simp only [embolden, List.isEmpty_iff]
  split <;> rfl

@[simp] theorem text_embolden (t : StyledText) (mode : CaseMode) (marker : List Char) :
    (t.embolden mode marker).1.text = t.text := by
  rw [embolden_eq]
  split
  · rfl
  · exact text_restyle t _

theorem sound_embolden (h : t.Sound) (mode : CaseMode) (marker : List Char) :
    (t.embolden mode marker).1.Sound := by
  rw [embolden_eq]
  split
  · exact h
  · exact sound_restyle h _

theorem look_embolden (t : StyledText) (mode : CaseMode) (marker : List Char) (byte : Nat) :
    SameLook ((t.embolden mode marker).1.attributesAt? byte)
      ((t.attributesAt? byte).map fun a =>
        if (Occurrences.find mode marker t.text).any fun s => s.start ≤ byte && byte < s.stop then
          a.bolded
        else a) := by
  have hwhole := Occurrences.isWhole_find mode marker t.text
  rw [embolden_eq]
  generalize Occurrences.find mode marker t.text = found at hwhole ⊢
  split
  · next hnone =>
    rw [hnone]
    simp only [List.any_nil, Bool.false_eq_true, if_false, Option.map_id']
    cases t.attributesAt? byte with
    | none => exact .none
    | some a => exact .some (.refl a)
  · have hlook := (restyled_batch t (found.map .bold) true).bytes byte
    rw [batch_eq_restyle] at hlook
    have hbytes : Restyle.onByte t.text (found.map .bold) byte = fun a =>
        if found.any fun s => s.start ≤ byte && byte < s.stop then a.bolded else a := by
      funext a
      exact Restyle.onByte_spans hwhole Attributes.bolded_bolded byte a
    rwa [hbytes] at hlook

theorem bold_embolden (inside : index < t.text.length)
    (h : t.attributesAt? (Text.byteOffset t.text index) = some a) (mode : CaseMode)
    (marker : List Char) :
    ∃ b, (t.embolden mode marker).1.attributesAt? (Text.byteOffset t.text index) = some b ∧
      b.foreground = a.foreground ∧
      (b.font.weight.isBold = true ↔
        a.font.weight.isBold = true ∨ Occurrences.Marked mode marker t.text index) := by
  have hlook := look_embolden t mode marker (Text.byteOffset t.text index)
  rw [h, Option.map_some] at hlook
  generalize (t.embolden mode marker).1.attributesAt? (Text.byteOffset t.text index) = shown at hlook ⊢
  cases hlook with
  | @some b _ halike =>
    refine ⟨b, rfl, ?_⟩
    rw [halike.foreground, halike.weight, ← Occurrences.any_find_iff inside]
    split
    · next hfound =>
      have hbold : a.bolded.font.weight.isBold = true := Weight.isBold_bolded a.font.weight
      exact ⟨rfl, iff_of_true hbold (.inr hfound)⟩
    · next hmissed => exact ⟨rfl, (or_iff_left hmissed).symm⟩

/-! ## One marker after the other -/

theorem emboldenAll_fst (t : StyledText) (mode : CaseMode) (markers : List (List Char)) :
    (t.emboldenAll mode markers).1 = markers.foldl (fun t marker => (t.embolden mode marker).1) t := by
  have hfold : ∀ (t : StyledText) (count : Nat),
      (markers.foldl (fun (p : StyledText × Nat) marker =>
        ((p.1.embolden mode marker).1, p.2 + (p.1.embolden mode marker).2)) (t, count)).1 =
      markers.foldl (fun t marker => (t.embolden mode marker).1) t := by
    induction markers with
    | nil => exact fun t count => rfl
    | cons marker markers ih => exact fun t count => ih _ _
  exact hfold t 0

@[simp] theorem text_emboldenAll (t : StyledText) (mode : CaseMode) (markers : List (List Char)) :
    (t.emboldenAll mode markers).1.text = t.text := by
  rw [emboldenAll_fst]
  induction markers generalizing t with
  | nil => rfl
  | cons marker markers ih => rw [List.foldl_cons, ih, text_embolden]

theorem sound_emboldenAll (h : t.Sound) (mode : CaseMode) (markers : List (List Char)) :
    (t.emboldenAll mode markers).1.Sound := by
  rw [emboldenAll_fst]
  induction markers generalizing t with
  | nil => exact h
  | cons marker markers ih => exact ih (sound_embolden h mode marker)

theorem bold_emboldenAll (inside : index < t.text.length)
    (h : t.attributesAt? (Text.byteOffset t.text index) = some a) (mode : CaseMode)
    (markers : List (List Char)) :
    ∃ b, (t.emboldenAll mode markers).1.attributesAt? (Text.byteOffset t.text index) = some b ∧
      b.foreground = a.foreground ∧
      (b.font.weight.isBold = true ↔
        a.font.weight.isBold = true ∨
          ∃ marker ∈ markers, Occurrences.Marked mode marker t.text index) := by
  rw [emboldenAll_fst]
  induction markers generalizing t a with
  | nil => exact ⟨a, h, rfl, by simp⟩
  | cons marker markers ih =>
    obtain ⟨b, hb, hcolor, hbold⟩ := bold_embolden inside h mode marker
    have htext := text_embolden t mode marker
    rw [← htext] at inside hb
    obtain ⟨last, hlast, hlastColor, hlastBold⟩ := ih inside hb
    rw [htext] at hlast hlastBold
    refine ⟨last, hlast, hlastColor.trans hcolor, ?_⟩
    rw [hlastBold, hbold, or_assoc, List.exists_mem_cons_iff]

end StyledText

end CodeEditor
