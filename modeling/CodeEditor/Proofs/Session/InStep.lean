import CodeEditor.Proofs.Cache
import CodeEditor.Proofs.Painting
import CodeEditor.Proofs.Session.Action

/-! # Buffer, display and colors in step

After every action the buffer holds the text of the display, and the display looks as if that text had
just been put into it and painted for the first time.
-/

namespace CodeEditor

/-! ## Byte offsets of positions -/

theorem StyledText.replace_bytesOf (t : StyledText) {s : Span} (ordered : s.start ≤ s.stop)
    (text : List Char) (a : Attributes) :
    t.replace (Text.bytesOf t.text s) text a =
      if (t.text.drop s.start).take (s.stop - s.start) = [] ∧ text = [] then t
      else
        { text := t.text.take s.start ++ text ++ t.text.drop s.stop
          runs := Run.merge (Run.replace t.runs (Text.bytesOf t.text s)
            (Run.covering (Text.byteLength text) a))
          revision := t.revision + 1 } := by
  have hsnap := Text.snap_bytesOf t.text ordered
  have hstop : t.text.take s.start ++ (t.text.drop s.start).take (s.stop - s.start) =
      t.text.take s.stop := by
    rw [← List.take_add, Nat.add_sub_cancel' ordered]
  have hpieces : t.text = t.text.take s.start ++ (t.text.drop s.start).take (s.stop - s.start) ++
      t.text.drop s.stop := by
    rw [hstop, List.take_append_drop]
  rw [StyledText.replace_eq hpieces, hsnap]
  · rw [hsnap]
    rfl
  · rw [hsnap, hstop]
    rfl

theorem StyledText.text_replace {t : StyledText} {b : Buffer} (same : b.text = t.text) {s : Span}
    (hs : s.clamp b.length = s) (text : List Char) (a : Attributes) :
    (t.replace ⟨b.byteOffset s.start, b.byteOffset s.stop⟩ text a).text = (b.replace s text).text := by
  have ordered : s.start ≤ s.stop := by rw [← hs]; exact s.clamp_ordered b.length
  have hbytes : (⟨b.byteOffset s.start, b.byteOffset s.stop⟩ : Span) = Text.bytesOf t.text s := by
    rw [← same]
    rfl
  rw [hbytes, t.replace_bytesOf ordered, Buffer.replace, hs, same]
  split
  · next hnone =>
    have hpieces : t.text.take s.start ++ (t.text.drop s.start).take (s.stop - s.start) ++
        t.text.drop s.stop = t.text := by
      rw [← List.take_add, Nat.add_sub_cancel' ordered, List.take_append_drop]
    rw [hnone.1] at hpieces
    rw [hnone.2]
    exact hpieces.symm
  · rfl

theorem StyledText.revision_replace {t : StyledText} {b : Buffer} (same : b.text = t.text) {s : Span}
    (hs : s.clamp b.length = s) {text : List Char}
    (something : (s.isEmpty && text.isEmpty) = false) (a : Attributes) :
    (t.replace ⟨b.byteOffset s.start, b.byteOffset s.stop⟩ text a).revision = t.revision + 1 := by
  have ordered : s.start ≤ s.stop := by rw [← hs]; exact s.clamp_ordered b.length
  have inside : s.stop ≤ b.text.length := by rw [← hs]; exact s.clamp_stop_le b.length
  have hbytes : (⟨b.byteOffset s.start, b.byteOffset s.stop⟩ : Span) = Text.bytesOf t.text s := by
    rw [← same]
    rfl
  rw [hbytes, t.replace_bytesOf ordered, if_neg]
  rintro ⟨htaken, rfl⟩
  have hlength := congrArg List.length htaken
  rw [← same] at hlength
  simp only [Span.isEmpty, List.isEmpty_nil, Bool.and_true, decide_eq_false_iff_not] at something
  simp only [List.length_take, List.length_drop, List.length_nil] at hlength
  omega

theorem StyledText.all_plain {P : Attributes → Prop} (text : List Char) {a : Attributes} (ha : P a) :
    Run.All P (plain text a).runs := Run.all_covering _ ha

theorem StyledText.all_replace {P : Attributes → Prop} {t : StyledText} (h : Run.All P t.runs)
    (s : Span) (text : List Char) {a : Attributes} (ha : P a) :
    Run.All P (t.replace s text a).runs := by
  rw [StyledText.replace]
  split
  · exact h
  · exact (h.replace _ (Run.all_covering _ ha)).merge

/-! ## The base -/

theorem EditorOptions.sameFractions_base (o : EditorOptions) (t t' : Theme) :
    (o.base t).SameFractions (o.base t') := ⟨rfl, rfl, rfl⟩

theorem EditorOptions.isNumeric_base {o : EditorOptions} (h : o.size.isNaN = false) (t : Theme) :
    (o.base t).IsNumeric := by
  have hzero : Number.Single.zero.isNaN = false := by decide
  have hone : (Number.Single.ofNat 1).isNaN = false := by decide
  exact ⟨h, hzero, hone⟩

namespace Session

/-! ## In step -/

/-- All that a pass relies on. -/
structure Ready (options : EditorOptions) (s : Session) : Prop where
  text : s.buffer.text = s.display.text
  sound : s.display.Sound
  /-- Runs that only look like those of a fresh pass are those of a fresh pass. -/
  uniform : Run.All (·.SameFractions s.base) s.display.runs
  /-- The patterns that are kept are those of their grammar. -/
  kept : ∀ g compiled, s.highlighter.compiled = some (g, compiled) → compiled = Highlight.compile g
  fixed : s.options = options
  base : s.base = options.base s.theme
  colors : s.colors = .ofGrammar s.theme s.grammar

/-- Nothing is left to do, and the display looks as after a fresh pass. -/
structure InStep (options : EditorOptions) (s : Session) : Prop extends s.Ready options where
  idle : s.phase = .idle
  painted : options.size.isNaN = false → s.display.runs =
    (Highlight.once (.plain s.display.text s.base) s.grammar s.colors s.base).1.runs

/-- What a pass reads and writes, and the text it is about. -/
structure Sheet where
  buffer : Buffer
  display : StyledText
  highlighter : Highlighter
  theme : Theme
  grammar : Grammar
  colors : ColorMap
  base : Attributes
  options : EditorOptions
  phase : Phase

def sheet (s : Session) : Sheet :=
  ⟨s.buffer, s.display, s.highlighter, s.theme, s.grammar, s.colors, s.base, s.options, s.phase⟩

variable {options : EditorOptions} {s : Session}

theorem InStep.congr {s' : Session} (h : s.InStep options) (same : s'.sheet = s.sheet) :
    s'.InStep options := by
  simp only [sheet, Sheet.mk.injEq] at same
  obtain ⟨h1, h2, h3, h4, h5, h6, h7, h8, h9⟩ := same
  refine ⟨⟨?_, ?_, ?_, ?_, ?_, ?_, ?_⟩, ?_, ?_⟩
  · rw [h1, h2]; exact h.text
  · rw [h2]; exact h.sound
  · rw [h2, h7]; exact h.uniform
  · rw [h3]; exact h.kept
  · rw [h8]; exact h.fixed
  · rw [h4, h7]; exact h.base
  · rw [h4, h5, h6]; exact h.colors
  · rw [h9]; exact h.idle
  · rw [h2, h5, h6, h7]; exact h.painted

theorem InStep.announce (h : s.InStep options) (e : Event) :
    (s.announce e).InStep options := h.congr rfl

theorem InStep.announceText (h : s.InStep options) : s.announceText.InStep options :=
  h.announce _

theorem InStep.announceSelection (h : s.InStep options) :
    s.announceSelection.InStep options := h.announce _

theorem patternsFor_eq (h : s.Ready options) :
    s.highlighter.patternsFor s.grammar = Highlight.compile s.grammar :=
  Highlighter.patternsFor_of_kept h.kept s.grammar

/-- A pass brings everything in step. -/
theorem inStep_rehighlight (h : s.Ready options) : s.rehighlight.InStep options := by
  have hdisplay : s.rehighlight.display =
      (Highlight.pass (Highlight.compile s.grammar) s.display s.colors s.base).1 := by
    rw [← patternsFor_eq h]
    rfl
  have hkept : s.rehighlight.highlighter.compiled = some (s.grammar, Highlight.compile s.grammar) := by
    rw [← patternsFor_eq h]
    rfl
  have htext := Highlight.text_pass (Highlight.compile s.grammar) s.display s.colors s.base
  refine ⟨⟨?_, ?_, ?_, ?_, h.fixed, h.base, h.colors⟩, rfl, ?_⟩
  · rw [hdisplay, htext]
    exact h.text
  · rw [hdisplay]
    exact Highlight.sound_pass h.sound _ _ _
  · rw [hdisplay]
    exact Highlight.all_pass h.uniform _ _
  · intro g compiled hsome
    rw [hkept] at hsome
    cases hsome
    rfl
  · intro hsize
    have numeric : s.base.IsNumeric := by
      rw [h.base]
      exact EditorOptions.isNumeric_base hsize s.theme
    have hfresh : Run.All (·.SameFractions s.base) (StyledText.plain s.display.text s.base).runs :=
      StyledText.all_plain s.display.text (.refl s.base)
    rw [hdisplay, htext]
    exact Highlight.runs_pass_congr h.sound (StyledText.sound_plain _ _) rfl h.uniform hfresh numeric
      _ _

theorem inStep_start (library : Library) (disk : Disk) :
    (start library disk options).InStep options := by
  have hruns : ∀ a, Run.All (·.SameFractions a) (StyledText.plain [] a).runs :=
    fun a => StyledText.all_plain [] (.refl a)
  apply inStep_rehighlight
  refine ⟨rfl, StyledText.sound_plain [] _, hruns _, ?_, rfl, rfl, by dsimp only⟩
  rintro g compiled hkept
  cases hkept

theorem inStep_setText (h : s.InStep options) (text : List Char) :
    (s.setText text).InStep options := by
  have hruns : Run.All (·.SameFractions s.base) (s.display.setText text s.base).runs :=
    StyledText.all_plain text (.refl s.base)
  apply InStep.announceSelection
  apply InStep.announceText
  apply inStep_rehighlight
  exact ⟨rfl, StyledText.sound_setText _ _ _, hruns, h.kept, h.fixed, h.base, h.colors⟩

theorem inStep_edit (h : s.InStep options) (span : Span) (text : List Char)
    (intent? : Option Intent) (cursor? : Option Nat) :
    (s.edit span text intent? cursor?).1.InStep options := by
  have hclamp := Span.clamp_clamp span s.buffer.length
  rw [edit]
  simp only
  split
  · exact h
  · apply InStep.announceSelection
    apply InStep.announceText
    apply inStep_rehighlight
    exact ⟨(StyledText.text_replace h.text hclamp text s.base).symm,
      StyledText.sound_replace h.sound _ _ _, StyledText.all_replace h.uniform _ _ (.refl _), h.kept,
      h.fixed, h.base, h.colors⟩

theorem inStep_applyStep (h : s.InStep options) (step? : Option (History × Replacement)) :
    (s.applyStep step?).1.InStep options := by
  unfold applyStep
  split
  · exact h
  · apply inStep_edit
    exact h.congr rfl

theorem inStep_undo (h : s.InStep options) : s.undo.1.InStep options :=
  inStep_applyStep h s.history.undo?

theorem inStep_redo (h : s.InStep options) : s.redo.1.InStep options :=
  inStep_applyStep h s.history.redo?

theorem inStep_selectTheme (h : s.InStep options) (name : String) :
    (s.selectTheme name).1.InStep options := by
  unfold selectTheme
  split
  · exact h
  · next library disk theme _ =>
    have hbase : s.options.base theme = options.base theme := by rw [h.fixed]
    have hruns : Run.All (·.SameFractions (s.options.base theme)) s.display.runs := by
      -- The runs are those of the old theme, but its base has the same fractions.
      intro r hr
      have hold := h.uniform r hr
      rw [h.base] at hold
      rw [hbase]
      exact hold.trans (options.sameFractions_base _ _)
    apply InStep.announce
    apply inStep_rehighlight
    exact ⟨h.text, h.sound, hruns, h.kept, h.fixed, hbase, by dsimp only⟩

theorem inStep_selectGrammar (h : s.InStep options) (name : String) :
    (s.selectGrammar name).1.InStep options := by
  unfold selectGrammar
  split
  · exact h
  · split
    · exact h
    · apply InStep.announce
      apply inStep_rehighlight
      exact ⟨h.text, h.sound, h.uniform, h.kept, h.fixed, h.base, by dsimp only⟩

theorem inStep_stepAside (h : s.InStep options) (call : Aside) :
    (s.stepAside call).InStep options := by
  cases call with
  | selectTheme name => exact inStep_selectTheme h name
  | selectGrammar name => exact inStep_selectGrammar h name
  | scrollTo position =>
    rw [stepAside, scrollTo]
    split
    · exact h
    · exact h.congr rfl
  | gutterRows rows wrap =>
    rw [stepAside, gutterRows?]
    cases s.gutter.layout? s.buffer ⟨s.firstVisible, rows, wrap⟩ with
    | none => exact h
    | some layout => exact h.congr rfl
  | saveFile file =>
    rw [stepAside, saveFile]
    cases s.disk.write file (Text.Utf8.encode s.text) with
    | error cause => exact h
    | ok disk => exact h.congr rfl
  | _ => exact h.congr rfl

theorem inStep_step (h : s.InStep options) (part : Part) : (s.step part).InStep options := by
  cases part with
  | edit span text intent cursor? => exact inStep_edit h span text _ cursor?
  | undo => exact inStep_undo h
  | redo => exact inStep_redo h
  | setText text => exact inStep_setText h text
  | aside call => exact inStep_stepAside h call

theorem inStep_steps (h : s.InStep options) (parts : List Part) : (s.steps parts).InStep options :=
  steps_induction (P := fun s => s.InStep options) (fun _ part hs => inStep_step hs part) h parts

theorem inStep_run (library : Library) (disk : Disk) (options : EditorOptions)
    (actions : List Action) : ((start library disk options).run actions).InStep options :=
  run_induction (P := fun s => s.InStep options) (fun _ part hs => inStep_step hs part)
    (inStep_start library disk) actions

/-- After any actions the session is idle, the buffer holds the text of the display, and the runs are
those of a text that has just been painted in the current theme and grammar. -/
theorem display_is_freshly_painted (library : Library) (disk : Disk) (options : EditorOptions)
    (numeric : options.size.isNaN = false) (actions : List Action) :
    let s := (start library disk options).run actions
    let base := options.base s.theme
    s.phase = .idle ∧ s.buffer.text = s.text ∧
      s.display.runs = (Highlight.once (.plain s.text base) s.grammar
        (.ofGrammar s.theme s.grammar) base).1.runs := by
  have h := inStep_run library disk options actions
  have hpainted := h.painted numeric
  rw [h.colors, h.base] at hpainted
  exact ⟨h.idle, h.text, hpainted⟩

theorem display_is_freshly_painted_standard :
    EditorOptions.standard.size.isNaN = false ∧
      let s := (start default default .standard).run
        [.execute (.insertText ['a', '≠']), .execute .insertNewline, .execute .undo]
      let base := EditorOptions.standard.base s.theme
      s.phase = .idle ∧ s.buffer.text = s.text ∧
        s.display.runs = (Highlight.once (.plain s.text base) s.grammar
          (.ofGrammar s.theme s.grammar) base).1.runs := by
  have numeric : EditorOptions.standard.size.isNaN = false := by decide
  exact ⟨numeric, display_is_freshly_painted default default .standard numeric _⟩

end Session

end CodeEditor
