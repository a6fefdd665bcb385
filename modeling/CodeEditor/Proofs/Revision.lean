import CodeEditor.Proofs.Cache
import CodeEditor.Proofs.Painting

/-! # What counts as a change

A batch after which some byte looks different counts as one change. Any other batch leaves the text and
its revision as they were, whatever it has divided, painted and painted over. A pass that follows one with
the same grammar, colors and base finds nothing to change.
-/

namespace CodeEditor

namespace Attributes

theorem agrees_of_alike {a b c : Attributes} (ha : Alike a c) (hb : Alike b c)
    (numeric : c.IsNumeric) : a.agrees b := by
  have hca : c.agrees a := (alike_iff_agrees numeric).mp ha.symm
  have hcb : c.agrees b := (alike_iff_agrees numeric).mp hb.symm
  exact agrees_trans (agrees_symm hca) hcb

end Attributes

namespace Run

theorem sameRuns_trans {as bs cs : List Run} (hab : sameRuns as bs) (hbc : sameRuns bs cs) :
    sameRuns as cs := by
  rw [sameRuns_iff] at *
  induction hab generalizing cs with
  | nil => exact hbc
  | cons hfirst _ ih =>
    cases hbc with
    | cons hsecond hrest =>
      refine .cons ⟨hfirst.1.trans hsecond.1, ?_⟩ (ih hrest)
      exact Attributes.agrees_trans hfirst.2 hsecond.2

end Run

namespace Restyle

theorem onByte_induction {P : Attributes → Prop} {text : List Char} {changes : List Restyle} {byte : Nat}
    {a : Attributes} (keeps : ∀ r ∈ changes, ∀ a, P a → P (r.change a)) (h : P a) :
    P (onByte text changes byte a) := by
  induction changes generalizing a with
  | nil => exact h
  | cons r rs ih =>
    obtain ⟨hr, hrs⟩ := List.forall_mem_cons.mp keeps
    rw [onByte_cons]
    apply ih hrs
    split
    · exact hr a h
    · exact h

end Restyle

namespace StyledText

variable {t t' : StyledText} {byte : Nat}

/-! ## Batches -/

/-- Some byte of the text does not look the same in the other one. -/
def LooksDifferent (t t' : StyledText) : Prop :=
  ∃ byte < t.byteLength,
    ¬ Option.Rel (fun a b => a.agrees b) (t.attributesAt? byte) (t'.attributesAt? byte)

/-- The step from a text to another one counts as one change if it is to be seen, and is none
otherwise. -/
structure Counts (t t' : StyledText) : Prop where
  visible : t.LooksDifferent t' → t'.revision = t.revision + 1
  idle : ¬ t.LooksDifferent t' → t' = t

theorem bytes_of_sameRuns (h : Run.sameRuns t.runs t'.runs) (byte : Nat) :
    Option.Rel (fun a b => a.agrees b) (t.attributesAt? byte) (t'.attributesAt? byte) := by
  rw [attributesAt?_eq, attributesAt?_eq]
  exact rel_getElem? (Run.styles_of_sameRuns h) byte

theorem attributesAt?_past (h : t.Sound) (past : t.byteLength ≤ byte) : t.attributesAt? byte = none := by
  rw [← Option.not_isSome_iff_eq_none, isSome_attributesAt? h]
  exact Nat.not_lt.mpr past

theorem sameRuns_of_not_looksDifferent (h : t.Sound) (h' : t'.Sound) (text : t'.text = t.text)
    (idle : ¬ t.LooksDifferent t') : Run.sameRuns t.runs t'.runs := by
  apply sameRuns_of_bytes h h'
  intro byte
  rcases Nat.lt_or_ge byte t.byteLength with inside | past
  · by_contra hdiffers
    exact idle ⟨byte, inside, hdiffers⟩
  · have past' : t'.byteLength ≤ byte := by rwa [byteLength, text]
    rw [attributesAt?_past h past, attributesAt?_past h' past']
    exact .none

theorem counts_restyle (h : t.Sound) (changes : List Restyle) : t.Counts (t.restyle changes) := by
  have hrestyle := restyle_eq t changes
  by_cases hsame : Run.sameRuns (Run.merge (t.restyledRuns changes)) t.runs
  · rw [if_pos hsame] at hrestyle
    -- The runs agree with others, so with themselves.
    have hself := Run.sameRuns_trans (Run.sameRuns_symm hsame) hsame
    rw [hrestyle]
    constructor
    · rintro ⟨byte, -, hdiffers⟩
      exact absurd (bytes_of_sameRuns hself byte) hdiffers
    · intro _
      rfl
  · rw [if_neg hsame] at hrestyle
    constructor
    · intro _
      rw [hrestyle]
    · intro idle
      have hruns := sameRuns_of_not_looksDifferent h (sound_restyle h changes) (text_restyle t changes) idle
      rw [hrestyle] at hruns
      exact absurd (Run.sameRuns_symm hruns) hsame

end StyledText

/-! ## Passes -/

namespace Highlight

variable [Engine] {t : StyledText} {compiled : Compiled} {text : List Char} {colors : ColorMap} {base : Attributes}
  {byte : Nat}

theorem onByte_strokes_congr (inside : byte < Text.byteLength text) (a b : Attributes) :
    Restyle.onByte text (strokes compiled text colors base) byte a =
      Restyle.onByte text (strokes compiled text colors base) byte b := by
  have htouch : (Restyle.attributes ⟨0, Text.byteLength text⟩ base).touches text byte = true := by
    have hwhole : Text.snap text ⟨0, Text.byteLength text⟩ = ⟨0, Text.byteLength text⟩ :=
      Text.snap_eq_self (Text.isBoundary_zero _) (Text.isBoundary_byteLength _) (Nat.zero_le _)
    simp only [Restyle.touches, Restyle.attributes, hwhole, decide_eq_true_iff]
    exact ⟨Nat.zero_le _, inside⟩
  rw [strokes, Restyle.onByte_cons, Restyle.onByte_cons, if_pos htouch, if_pos htouch]
  rfl

theorem isNumeric_onByte_strokes (numeric : base.IsNumeric) :
    (Restyle.onByte text (strokes compiled text colors base) byte base).IsNumeric := by
  have hfractions :
      (Restyle.onByte text (strokes compiled text colors base) byte base).SameFractions base := by
    apply Restyle.onByte_induction (P := (Attributes.SameFractions · base))
    · exact fun r hr a => sameFractions_stroke hr
    · exact .refl base
  exact hfractions.isNumeric numeric

theorem look_pass (compiled : Compiled) (colors : ColorMap) (base : Attributes) (h : t.Sound)
    (inside : byte < t.byteLength) :
    ∃ shown, (pass compiled t colors base).1.attributesAt? byte = some shown ∧
      shown.Alike (Restyle.onByte t.text (strokes compiled t.text colors base) byte base) := by
  obtain ⟨a, ha⟩ :=
    Option.isSome_iff_exists.mp ((StyledText.isSome_attributesAt? h byte).mpr inside)
  have hlook := (StyledText.restyled_batch t (strokes compiled t.text colors base) true).bytes byte
  rw [StyledText.batch_eq_restyle, ← pass_eq, ha, Option.map_some, onByte_strokes_congr inside a base]
    at hlook
  cases hshown : (pass compiled t colors base).1.attributesAt? byte with
  | none =>
    rw [hshown] at hlook
    cases hlook
  | some shown =>
    rw [hshown] at hlook
    cases hlook with
    | some halike => exact ⟨shown, rfl, halike⟩

/-- A second pass changes nothing. -/
theorem pass_pass (h : t.Sound) (numeric : base.IsNumeric) :
    (pass compiled (pass compiled t colors base).1 colors base).1 = (pass compiled t colors base).1 := by
  have hpassed := sound_pass h compiled colors base
  have htext := text_pass compiled t colors base
  apply (StyledText.counts_restyle hpassed _).idle
  rintro ⟨byte, inside, hdiffers⟩
  have inside' : byte < t.byteLength := by rwa [StyledText.byteLength, htext] at inside
  obtain ⟨once, honce, halike⟩ := look_pass compiled colors base h inside'
  obtain ⟨twice, htwice, halike'⟩ := look_pass compiled colors base hpassed inside
  rw [htext] at halike'
  rw [pass_eq] at htwice
  apply hdiffers
  rw [honce]
  exact htwice ▸ .some (Attributes.agrees_of_alike halike halike' (isNumeric_onByte_strokes numeric))

end Highlight

namespace StyledText

variable [Engine]

/-- Whatever has been done to a text, a batch counts as one change exactly if it is to be seen, and the
second of two passes, by the same highlighter or another one, is not. -/
theorem revision_counts_visible_changes (text : List Char) (a : Attributes)
    (operations : List Operation) :
    let t := (plain text a).applyAll operations
    (∀ changes committed, t.Counts (t.batch changes committed)) ∧
    ∀ (calls calls' : List Highlighter.Call) (g : Grammar) (colors : ColorMap) (base : Attributes),
      base.IsNumeric →
      let once := ((Highlighter.after calls).highlight t g colors base).2.1
      ((Highlighter.after calls').highlight once g colors base).2.1 = once := by
  intro t
  have hsound : t.Sound := sound_applyAll (sound_plain text a) operations
  constructor
  · intro changes committed
    rw [batch_eq_restyle]
    exact counts_restyle hsound changes
  · intro calls calls' g colors base numeric once
    have honce : once = (Highlight.once t g colors base).1 := by
      rw [← Highlighter.highlight_after calls]
    rw [Highlighter.highlight_after, honce]
    exact Highlight.pass_pass hsound numeric

end StyledText

namespace StyledText

theorem revision_counts_visible_changes_inserted :
    let red := Attributes.standard.withForeground (.rgb 255 0 0)
    let t := (plain ['a', '≠', '1'] .standard).applyAll [.replace ⟨2, 3⟩ ['2', 'b'] red]
    let g : Grammar := ⟨"Digits", "", [⟨"Numbers", "[0-9]+"⟩]⟩
    let colors : ColorMap := .ofGrammar default g
    let once := ((Highlighter.after [.invalidate]).highlight t g colors .standard).2.1
    Attributes.standard.IsNumeric ∧
      ((Highlighter.after []).highlight once g colors .standard).2.1 = once := by
  intro red t g colors once
  have numeric : Attributes.standard.IsNumeric := ⟨by decide, by decide, by decide⟩
  have hpasses := (revision_counts_visible_changes ['a', '≠', '1'] .standard
    [.replace ⟨2, 3⟩ ['2', 'b'] red]).2
  exact ⟨numeric, hpasses [.invalidate] [] g colors .standard numeric⟩

end StyledText

end CodeEditor
