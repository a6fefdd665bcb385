import CodeEditor.Proofs.Emboldening
import CodeEditor.Proofs.Revision
import Mathlib.Order.Defs.LinearOrder
import Mathlib.Order.Lattice

/-! # Many markers in bold

Markers one after the other raise the weight of the bytes that any of them reaches to bold. Neither their
order nor how often each of them comes matters, and doing it all again changes nothing.
-/

namespace CodeEditor

/-! ## Weights -/

namespace Weight

theorem rank_injective : Function.Injective rank := by
  intro w w' h
  cases w <;> cases w' <;> first | rfl | cases h

instance : LinearOrder Weight := .lift' rank rank_injective

theorem bolded_eq_max (w : Weight) : w.bolded = max w .bold := by
  cases w <;> rfl

end Weight

namespace Attributes

def withWeight (a : Attributes) (weight : Weight) : Attributes :=
  a.withFont { a.font with weight := weight }

theorem bolded_eq_withWeight (a : Attributes) : a.bolded = a.withWeight (max a.font.weight .bold) := by
  unfold bolded Font.bolded withWeight
  rw [Weight.bolded_eq_max]

theorem Alike.bolded {a b : Attributes} (h : Alike a b) : Alike a.bolded b.bolded := by
  rcases h with rfl | hagrees
  · exact .refl _
  · apply Or.inr
    rw [agrees_iff] at hagrees ⊢
    obtain ⟨⟨hfamily, hsize, hweight, hitalic⟩, hrest⟩ := hagrees
    exact ⟨⟨hfamily, hsize, congrArg Weight.bolded hweight, hitalic⟩, hrest⟩

def boldedIf (a : Attributes) (p : Prop) [Decidable p] : Attributes := if p then a.bolded else a

variable {p q : Prop} [Decidable p] [Decidable q]

theorem boldedIf_boldedIf (a : Attributes) : (a.boldedIf p).boldedIf q = a.boldedIf (p ∨ q) := by
  unfold boldedIf
  by_cases hp : p <;> by_cases hq : q <;> simp [hp, hq, bolded_bolded]

theorem boldedIf_of (a : Attributes) (h : p) : a.boldedIf p = a.bolded := if_pos h

theorem boldedIf_eq_withWeight (a : Attributes) :
    a.boldedIf p = a.withWeight (if p then max a.font.weight .bold else a.font.weight) := by
  unfold boldedIf
  split
  · exact a.bolded_eq_withWeight
  · rfl

theorem Alike.boldedIf {a b : Attributes} (h : Alike a b) : Alike (a.boldedIf p) (b.boldedIf p) := by
  unfold Attributes.boldedIf
  split
  · exact h.bolded
  · exact h

end Attributes

namespace Occurrences

/-- A byte of a place that is found for the marker. -/
def Reaches (mode : CaseMode) (marker text : List Char) (byte : Nat) : Prop :=
  ∃ s ∈ find mode marker text, s.start ≤ byte ∧ byte < s.stop

instance (mode : CaseMode) (marker text : List Char) (byte : Nat) :
    Decidable (Reaches mode marker text byte) :=
  inferInstanceAs (Decidable (∃ s ∈ find mode marker text, s.start ≤ byte ∧ byte < s.stop))

theorem any_reaches_iff {mode : CaseMode} {marker text : List Char} {byte : Nat} :
    ((find mode marker text).any fun s => s.start ≤ byte && byte < s.stop) = true ↔
      Reaches mode marker text byte := by
  simp only [List.any_eq_true, Bool.and_eq_true, decide_eq_true_iff, Reaches]

end Occurrences

namespace StyledText

variable {t : StyledText} {mode : CaseMode} {marker : List Char} {markers markers' : List (List Char)}
  {byte : Nat} {a : Attributes}

/-! ## Texts whose fractions are numbers -/

/-- All fractions in the runs are numbers. -/
def IsNumeric (t : StyledText) : Prop := Run.All Attributes.IsNumeric t.runs

theorem IsNumeric.attributesAt? (h : t.IsNumeric) (shown : t.attributesAt? byte = some a) :
    a.IsNumeric := by
  rw [attributesAt?_eq] at shown
  exact h.styles a (List.mem_of_getElem? shown)

theorem IsNumeric.restyle {changes : List Restyle} (h : t.IsNumeric)
    (hchanges : ∀ r ∈ changes, ∀ a, a.IsNumeric → (r.change a).IsNumeric) :
    (t.restyle changes).IsNumeric := by
  rw [restyle_eq]
  split
  · exact h
  · exact (Highlight.all_foldl_restyleRuns t.text hchanges h).merge

namespace SameLook

variable {x y z : Option Attributes}

theorem refl (x : Option Attributes) : SameLook x x := by
  cases x with
  | none => exact .none
  | some a => exact .some (.refl a)

theorem symm (h : SameLook x y) : SameLook y x := by
  cases h with
  | none => exact .none
  | some halike => exact .some halike.symm

theorem trans (hxy : SameLook x y) (hyz : SameLook y z) : SameLook x z := by
  cases hxy with
  | none => exact hyz
  | some halike =>
    cases hyz with
    | some halike' => exact .some (halike.trans halike')

theorem map {change : Attributes → Attributes} (h : SameLook x y)
    (keeps : ∀ a b, a.Alike b → (change a).Alike (change b)) :
    SameLook (x.map change) (y.map change) := by
  cases h with
  | none => exact .none
  | some halike => exact .some (keeps _ _ halike)

end SameLook

theorem agrees_of_sameLook {x y : Option Attributes} (h : SameLook x y)
    (numeric : ∀ a, x = some a → a.IsNumeric) : Option.Rel (fun a b => a.agrees b) x y := by
  cases h with
  | none => exact .none
  | some halike => exact .some ((Attributes.alike_iff_agrees (numeric _ rfl)).mp halike)

theorem restyle_eq_self {changes : List Restyle} (h : t.Sound) (numeric : t.IsNumeric)
    (idle : ∀ byte a, t.attributesAt? byte = some a →
      a.Alike (Restyle.onByte t.text changes byte a)) : t.restyle changes = t := by
  apply (counts_restyle h changes).idle
  rintro ⟨byte, -, hdiffers⟩
  have hlook := (restyled_batch t changes true).bytes byte
  rw [batch_eq_restyle] at hlook
  have hidle : SameLook (t.attributesAt? byte)
      ((t.attributesAt? byte).map (Restyle.onByte t.text changes byte)) := by
    cases hshown : t.attributesAt? byte with
    | none => exact .none
    | some a => exact .some (idle byte a hshown)
  exact hdiffers (agrees_of_sameLook (hidle.trans hlook.symm) fun a => numeric.attributesAt?)

/-! ## One marker -/

theorem IsNumeric.embolden (h : t.IsNumeric) (mode : CaseMode) (marker : List Char) :
    (t.embolden mode marker).1.IsNumeric := by
  rw [embolden_eq]
  split
  · exact h
  · apply h.restyle
    rw [List.forall_mem_map]
    intro s _ a ha
    exact ha

theorem embolden_snd (t : StyledText) (mode : CaseMode) (marker : List Char) :
    (t.embolden mode marker).2 = (Occurrences.find mode marker t.text).length := by
  simp only [embolden, List.isEmpty_iff]
  split
  · next hnone => rw [hnone, List.length_nil]
  · rfl

/-! ## One marker after the other -/

theorem look_embolden_reaches (t : StyledText) (mode : CaseMode) (marker : List Char) (byte : Nat) :
    SameLook ((t.embolden mode marker).1.attributesAt? byte)
      ((t.attributesAt? byte).map (·.boldedIf (Occurrences.Reaches mode marker t.text byte))) := by
  have hlook := look_embolden t mode marker byte
  simp only [Occurrences.any_reaches_iff] at hlook
  exact hlook

theorem look_emboldenAll (t : StyledText) (mode : CaseMode) (markers : List (List Char)) (byte : Nat) :
    SameLook ((t.emboldenAll mode markers).1.attributesAt? byte)
      ((t.attributesAt? byte).map
        (·.boldedIf (∃ marker ∈ markers, Occurrences.Reaches mode marker t.text byte))) := by
  rw [emboldenAll_fst]
  induction markers generalizing t with
  | nil =>
    simp only [Attributes.boldedIf, List.not_mem_nil, false_and, exists_false, if_false,
      Option.map_id', List.foldl_nil]
    exact .refl _
  | cons marker markers ih =>
    have hothers := ih (t.embolden mode marker).1
    rw [text_embolden] at hothers
    have hfirst := look_embolden_reaches t mode marker byte
    -- A byte that both the first marker and the others reach is no bolder for it.
    have hboth := hothers.trans (hfirst.map fun _ _ halike => halike.boldedIf)
    simp only [Option.map_map, Function.comp_def, Attributes.boldedIf_boldedIf] at hboth
    simpa only [List.foldl_cons, List.exists_mem_cons_iff] using hboth

theorem foldl_embolden_snd (t : StyledText) (mode : CaseMode) (markers : List (List Char)) (count : Nat) :
    (markers.foldl (fun (p : StyledText × Nat) marker =>
      ((p.1.embolden mode marker).1, p.2 + (p.1.embolden mode marker).2)) (t, count)).2 =
      count + (markers.map fun marker => (Occurrences.find mode marker t.text).length).sum := by
  induction markers generalizing t count with
  | nil => rfl
  | cons marker markers ih =>
    rw [List.foldl_cons, ih, text_embolden, embolden_snd, List.map_cons, List.sum_cons,
      Nat.add_assoc]

theorem emboldenAll_snd (t : StyledText) (mode : CaseMode) (markers : List (List Char)) :
    (t.emboldenAll mode markers).2 =
      (markers.map fun marker => (Occurrences.find mode marker t.text).length).sum :=
  (foldl_embolden_snd t mode markers 0).trans (Nat.zero_add _)

theorem IsNumeric.emboldenAll (h : t.IsNumeric) (mode : CaseMode) (markers : List (List Char)) :
    (t.emboldenAll mode markers).1.IsNumeric := by
  rw [emboldenAll_fst]
  induction markers generalizing t with
  | nil => exact h
  | cons marker markers ih => exact ih (h.embolden mode marker)

theorem sameRuns_emboldenAll (h : t.Sound) (numeric : t.IsNumeric) (mode : CaseMode)
    (same : ∀ marker, marker ∈ markers' ↔ marker ∈ markers) :
    Run.sameRuns (t.emboldenAll mode markers').1.runs (t.emboldenAll mode markers).1.runs := by
  apply sameRuns_of_bytes (sound_emboldenAll h mode markers') (sound_emboldenAll h mode markers)
  intro byte
  have hlook := look_emboldenAll t mode markers' byte
  simp only [same] at hlook
  apply agrees_of_sameLook (hlook.trans (look_emboldenAll t mode markers byte).symm)
  intro a shown
  exact (numeric.emboldenAll mode markers').attributesAt? shown

/-! ## The same markers again -/

theorem embolden_eq_self (h : t.Sound) (numeric : t.IsNumeric)
    (bold : ∀ byte a, t.attributesAt? byte = some a →
      Occurrences.Reaches mode marker t.text byte → a.Alike a.bolded) :
    (t.embolden mode marker).1 = t := by
  have hwhole := Occurrences.isWhole_find mode marker t.text
  rw [embolden_eq]
  split
  · rfl
  · apply restyle_eq_self h numeric
    intro byte a shown
    have hbyte := Restyle.onByte_spans hwhole Attributes.bolded_bolded byte a
    rw [show (Occurrences.find mode marker t.text).map Restyle.bold =
      (Occurrences.find mode marker t.text).map fun s => ⟨s, Attributes.bolded⟩ from rfl, hbyte]
    split
    · next hreached => exact bold byte a shown (Occurrences.any_reaches_iff.mp hreached)
    · exact .refl a

theorem embolden_emboldenAll (h : t.Sound) (numeric : t.IsNumeric) (mode : CaseMode)
    (hmarker : marker ∈ markers) :
    ((t.emboldenAll mode markers).1.embolden mode marker).1 = (t.emboldenAll mode markers).1 := by
  apply embolden_eq_self (sound_emboldenAll h mode markers) (numeric.emboldenAll mode markers)
  intro byte a shown hreached
  rw [text_emboldenAll] at hreached
  have hlook := look_emboldenAll t mode markers byte
  rw [shown] at hlook
  have hany : ∃ m ∈ markers, Occurrences.Reaches mode m t.text byte := ⟨marker, hmarker, hreached⟩
  simp only [Attributes.boldedIf_of _ hany] at hlook
  cases hbefore : t.attributesAt? byte with
  | none =>
    rw [hbefore] at hlook
    cases hlook
  | some b =>
    rw [hbefore, Option.map_some] at hlook
    cases hlook with
    | some halike =>
      have hagain := halike.bolded
      rw [Attributes.bolded_bolded] at hagain
      exact halike.trans hagain.symm

theorem foldl_embolden_emboldenAll {again : List (List Char)} (h : t.Sound) (numeric : t.IsNumeric)
    (mode : CaseMode) (hagain : again ⊆ markers) :
    again.foldl (fun t marker => (t.embolden mode marker).1) (t.emboldenAll mode markers).1 =
      (t.emboldenAll mode markers).1 := by
  induction again with
  | nil => rfl
  | cons marker again ih =>
    obtain ⟨hmarker, hothers⟩ := List.cons_subset.mp hagain
    rw [List.foldl_cons, embolden_emboldenAll h numeric mode hmarker, ih hothers]

theorem emboldenAll_emboldenAll (h : t.Sound) (numeric : t.IsNumeric) (mode : CaseMode)
    (markers : List (List Char)) :
    (t.emboldenAll mode markers).1.emboldenAll mode markers = t.emboldenAll mode markers := by
  apply Prod.ext
  · rw [emboldenAll_fst (t.emboldenAll mode markers).1]
    exact foldl_embolden_emboldenAll h numeric mode (List.Subset.refl markers)
  · rw [emboldenAll_snd, emboldenAll_snd, text_emboldenAll]

/-! ## The union -/

/-- What markers make of a text. -/
structure Emboldened (t : StyledText) (mode : CaseMode) (markers : List (List Char))
    (bold : StyledText) (count : Nat) : Prop where
  text : bold.text = t.text
  /-- The bytes that one of the markers reaches have at least the weight of bold type, and nothing else
  is changed. -/
  bytes : ∀ byte, Option.Rel (fun shown a => shown.agrees a) (bold.attributesAt? byte)
    ((t.attributesAt? byte).map fun a => a.withWeight <|
      if ∃ marker ∈ markers, Occurrences.Reaches mode marker t.text byte then
        max a.font.weight .bold
      else a.font.weight)
  counted : count = (markers.map fun marker => (Occurrences.find mode marker t.text).length).sum
  reordered : ∀ markers', markers'.Perm markers →
    Run.sameRuns (t.emboldenAll mode markers').1.runs bold.runs ∧
      (t.emboldenAll mode markers').2 = count
  repeated : ∀ markers', (∀ marker, marker ∈ markers' ↔ marker ∈ markers) →
    Run.sameRuns (t.emboldenAll mode markers').1.runs bold.runs
  /-- The second time nothing changes, the revision included. -/
  again : bold.emboldenAll mode markers = (bold, count)

theorem bytes_emboldenAll (numeric : t.IsNumeric) (mode : CaseMode) (markers : List (List Char))
    (byte : Nat) :
    Option.Rel (fun shown a => shown.agrees a) ((t.emboldenAll mode markers).1.attributesAt? byte)
      ((t.attributesAt? byte).map fun a => a.withWeight <|
        if ∃ marker ∈ markers, Occurrences.Reaches mode marker t.text byte then
          max a.font.weight .bold
        else a.font.weight) := by
  have hlook := look_emboldenAll t mode markers byte
  simp only [Attributes.boldedIf_eq_withWeight] at hlook
  apply agrees_of_sameLook hlook
  intro a shown
  exact (numeric.emboldenAll mode markers).attributesAt? shown

/-- Markers act on the bytes of any text as the union of what is found for each of them. -/
theorem emboldenAll_is_union (text : List Char) (a : Attributes) (operations : List Operation)
    (mode : CaseMode) (markers : List (List Char))
    (numeric : ((plain text a).applyAll operations).IsNumeric) :
    let t := (plain text a).applyAll operations
    t.Emboldened mode markers (t.emboldenAll mode markers).1 (t.emboldenAll mode markers).2 := by
  intro t
  have hsound : t.Sound := sound_applyAll (sound_plain text a) operations
  constructor
  · exact text_emboldenAll t mode markers
  · exact bytes_emboldenAll numeric mode markers
  · exact emboldenAll_snd t mode markers
  · intro markers' hperm
    refine ⟨sameRuns_emboldenAll hsound numeric mode fun marker => hperm.mem_iff, ?_⟩
    rw [emboldenAll_snd, emboldenAll_snd]
    exact (hperm.map _).sum_nat
  · intro markers' hsame
    exact sameRuns_emboldenAll hsound numeric mode hsame
  · exact emboldenAll_emboldenAll hsound numeric mode markers

theorem emboldenAll_is_union_overlapping :
    let operations := [Operation.batch [.foreground ⟨0, 2⟩ (.rgb 255 0 0)] true]
    let t := (plain ['a', 'B', '≠', 'b'] .standard).applyAll operations
    let markers := [['b', '≠'], ['a', 'b'], ['b', '≠']]
    t.IsNumeric ∧
      t.Emboldened .ignored markers (t.emboldenAll .ignored markers).1
        (t.emboldenAll .ignored markers).2 := by
  intro operations t markers
  have numeric : t.IsNumeric := by
    show ∀ r ∈ t.runs, _ ∧ _ ∧ _
    decide
  exact ⟨numeric, emboldenAll_is_union _ _ operations .ignored markers numeric⟩

end StyledText

end CodeEditor
