import CodeEditor.CommandLine
import CodeEditor.Proofs.ColorMap
import CodeEditor.Proofs.Emboldening
import CodeEditor.Proofs.Terminal

/-! # A file in colors

What the program prints for a file is read as a terminal reads it. All of the file is shown, each
character in the color that the grammar and the theme give it, and in bold where a marker was taken.
-/

namespace CodeEditor

namespace Terminal

/-! ## The end of the output -/

/-- Both are empty or neither is, and both end in a line feed or neither does. -/
structure EndsAlike (output text : List Char) : Prop where
  empty : output = [] ↔ text = []
  line : output.getLast? = some '\n' ↔ text.getLast? = some '\n'

theorem EndsAlike.refl (text : List Char) : EndsAlike text text := ⟨.rfl, .rfl⟩

theorem EndsAlike.append {output text more others : List Char} (h : EndsAlike output text)
    (h' : EndsAlike more others) : EndsAlike (output ++ more) (text ++ others) := by
  constructor
  · rw [List.append_eq_nil_iff, List.append_eq_nil_iff, h.empty, h'.empty]
  · by_cases hnone : others = []
    · rw [hnone, h'.empty.mpr hnone, List.append_nil, List.append_nil]
      exact h.line
    · have hmore : more ≠ [] := mt h'.empty.mp hnone
      rw [List.getLast?_append_of_ne_nil _ hmore, List.getLast?_append_of_ne_nil _ hnone]
      exact h'.line

theorem endsAlike_segment (a : Attributes) {text : List Char} (hline : '\n' ∉ text) :
    EndsAlike (segment a text) text := by
  unfold segment
  by_cases hnone : text = []
  · rw [hnone]
    exact .refl []
  · rw [if_neg (by simpa using hnone)]
    have hreset : reset ≠ [] := by decide
    have hlast : text.getLast? ≠ some '\n' := fun h => hline (List.mem_of_getLast? h)
    constructor
    · simp [hnone]
    · rw [List.getLast?_append_of_ne_nil _ hreset]
      exact iff_of_false (by decide) hlast

theorem endsAlike_segments (a : Attributes) {parts : List (List Char)}
    (hline : ∀ part ∈ parts, '\n' ∉ part) :
    EndsAlike ((parts.map (segment a)).intersperse ['\n']).flatten
      (parts.intersperse ['\n']).flatten := by
  induction parts with
  | nil => exact .refl []
  | cons part parts ih =>
    obtain ⟨hpart, hparts⟩ := List.forall_mem_cons.mp hline
    have hsegment := endsAlike_segment a hpart
    cases parts with
    | nil => simpa using hsegment
    | cons next parts => exact hsegment.append ((EndsAlike.refl ['\n']).append (ih hparts))

theorem endsAlike_run (a : Attributes) (text : List Char) : EndsAlike (run a text) text := by
  have hparts := endsAlike_segments a fun part => Text.not_mem_split '\n' text part
  rwa [Text.flatten_split] at hparts

theorem endsAlike_runs {text : List Char} {rs : List Run} (h : Run.Covers text rs) :
    EndsAlike (runs rs text) text := by
  induction h with
  | nil => exact .refl []
  | @cons piece text r rs filled length rest ih =>
    rw [runs, length, Text.splitAtByte_byteLength]
    exact (endsAlike_run r.attributes piece).append ih

/-! ## Characters and their bytes -/

theorem exists_draws_render {t : StyledText} (h : t.Sound) (plain : '\x1b' ∉ t.text) :
    ∃ shown, Draws .cleared (render t) shown .cleared ∧ shown.map (·.1) = t.text ∧
      ∀ index c pen, shown[index]? = some (c, pen) → c ≠ '\n' →
        ∃ a, t.attributesAt? (Text.byteOffset t.text index) = some a ∧ pen = .of a := by
  obtain ⟨shown, hdraws, hcharacters, hpens⟩ := exists_draws_runs h.covers 0 plain
  refine ⟨shown, hdraws, hcharacters, ?_⟩
  intro index c pen hat hchar
  have hpen := hpens index c pen hat
  rw [if_neg hchar] at hpen
  obtain ⟨s, hs, hstart, hstop, hof⟩ := hpen
  have inside : index < t.text.length := by
    rw [← hcharacters, List.length_map]
    exact (List.getElem?_eq_some_iff.mp hat).1
  have hpast := Text.byteOffset_lt inside
  rw [Nat.zero_add] at hstart hstop
  refine ⟨s.2, ?_, hof⟩
  exact StyledText.attributesAt?_of_mem_located s hs (Text.byteOffset t.text index) hstart (by omega)

end Terminal

namespace CommandLine

open Terminal

variable {d : Disk} {l : Library} {theme : Theme} {grammar : Grammar} {text : List Char}

/-- What is printed after a text: a line feed, unless the text ends in one. -/
def ending (text : List Char) : List Char := if text.getLast? = some '\n' then [] else ['\n']

theorem eq_of_mem_ending {c : Char} (h : c ∈ ending text) : c = '\n' := by
  unfold ending at h
  split at h
  · cases h
  · exact List.mem_singleton.mp h

theorem draws_ending (text : List Char) :
    Draws .cleared (ending text) ((ending text).map fun c => (c, .cleared)) .cleared := by
  apply draws_text
  intro h
  exact absurd (eq_of_mem_ending h) (by decide)

theorem closed_render {t : StyledText} (h : t.Sound) :
    closed (render t) = render t ++ ending t.text := by
  have hline := (endsAlike_runs h.covers).line
  rw [← render] at hline
  unfold closed ending
  simp only [hline]
  split
  · rw [List.append_nil]
  · rfl

/-! ## The styles of a text -/

/-- A terminal shows the text of a file, in the colors of a theme and with some characters in bold. -/
structure ShowsFile (theme : Theme) (grammar : Grammar) (bold : Nat → Prop) (text : List Char)
    (shown : List (Char × Pen)) : Prop where
  characters : shown.map (·.1) = text ++ ending text
  colors : ∀ index c pen, shown[index]? = some (c, pen) → c ≠ '\n' →
    ∃ color, grammar.Colors theme text index color ∧
      pen.color = some (color.red.toNat, color.green.toNat, color.blue.toNat)
  weights : ∀ index c pen, shown[index]? = some (c, pen) → c ≠ '\n' →
    (pen.bold = true ↔ theme.weight.isBold = true ∨ bold index)

/-- A marker is taken at the character. -/
def IsMarked (markers : List String) (mode : CaseMode) (text : List Char) (index : Nat) : Prop :=
  ∃ marker ∈ markers, Occurrences.Marked mode marker.toList text index

theorem sound_styled (c : Config) (theme : Theme) (grammar : Grammar) (markers : List String)
    (mode : CaseMode) (text : List Char) : (styled c theme grammar markers mode text).Sound := by
  unfold styled
  apply StyledText.sound_emboldenAll
  exact Highlight.sound_pass (StyledText.sound_plain text _) _ _ _

theorem text_styled (c : Config) (theme : Theme) (grammar : Grammar) (markers : List String)
    (mode : CaseMode) (text : List Char) : (styled c theme grammar markers mode text).text = text := by
  simp only [styled, StyledText.text_emboldenAll]
  exact Highlight.text_pass _ _ _ _

theorem attributes_styled (c : Config) (theme : Theme) (grammar : Grammar) (markers : List String)
    (mode : CaseMode) (text : List Char) (index : Nat) (inside : index < text.length) :
    ∃ a, (styled c theme grammar markers mode text).attributesAt? (Text.byteOffset text index) =
        some a ∧
      grammar.Colors theme text index a.foreground ∧
      (a.font.weight.isBold = true ↔
        theme.weight.isBold = true ∨ IsMarked markers mode text index) := by
  have hbase : (c.base theme).foreground = theme.foreground := rfl
  have hsound := StyledText.sound_plain text (c.base theme)
  obtain ⟨a, ha, hcolor, hweight⟩ := Highlight.colors_once hsound grammar theme hbase inside
  have htext := Highlight.text_pass (Highlight.compile grammar) (.plain text (c.base theme))
    (.ofGrammar theme grammar) (c.base theme)
  rw [← Highlight.once] at htext
  unfold styled
  simp only [StyledText.plain] at ha hcolor htext ⊢
  generalize (Highlight.once _ grammar _ _).1 = painted at ha htext ⊢
  subst htext
  obtain ⟨b, hb, hforeground, hbold⟩ :=
    StyledText.bold_emboldenAll inside ha mode (markers.map String.toList)
  refine ⟨b, hb, ?_, ?_⟩
  · rw [hforeground]
    exact hcolor
  · rw [hbold, hweight]
    simp only [IsMarked, List.mem_map, exists_exists_and_eq_and]
    rfl

theorem showsFile_styled (c : Config) (theme : Theme) (grammar : Grammar) (markers : List String)
    (mode : CaseMode) (plain : '\x1b' ∉ text) :
    ShowsFile theme grammar (IsMarked markers mode text) text
      (interpret .cleared (closed (render (styled c theme grammar markers mode text)))).1 := by
  have hsound := sound_styled c theme grammar markers mode text
  have htext := text_styled c theme grammar markers mode text
  have hattributes := attributes_styled c theme grammar markers mode text
  rw [closed_render hsound]
  generalize styled c theme grammar markers mode text = t at hsound htext hattributes ⊢
  subst htext
  obtain ⟨shown, hdraws, hcharacters, hpens⟩ := exists_draws_render hsound plain
  rw [(hdraws.append (draws_ending t.text)).interpret_eq]
  have hstyled : ∀ index c pen,
      (shown ++ (ending t.text).map fun c => (c, Pen.cleared))[index]? = some (c, pen) → c ≠ '\n' →
        ∃ a, pen = .of a ∧ grammar.Colors theme t.text index a.foreground ∧
          (a.font.weight.isBold = true ↔
            theme.weight.isBold = true ∨ IsMarked markers mode t.text index) := by
    intro index c pen hat hchar
    rcases Nat.lt_or_ge index shown.length with hinside | hpast
    · rw [List.getElem?_append_left hinside] at hat
      have inside : index < t.text.length := by rwa [← hcharacters, List.length_map]
      obtain ⟨a, ha, hof⟩ := hpens index c pen hat hchar
      obtain ⟨b, hb, hcolor, hbold⟩ := hattributes index inside
      cases ha.symm.trans hb
      exact ⟨a, hof, hcolor, hbold⟩
    · -- Past the text there is a line feed at most.
      rw [List.getElem?_append_right hpast] at hat
      obtain ⟨c', hc', hpair⟩ := List.mem_map.mp (List.mem_of_getElem? hat)
      cases hpair
      exact absurd (eq_of_mem_ending hc') hchar
  constructor
  · rw [List.map_append, hcharacters]
    simp [Function.comp_def]
  · intro index c pen hat hchar
    obtain ⟨a, rfl, hcolor, -⟩ := hstyled index c pen hat hchar
    exact ⟨a.foreground, hcolor, rfl⟩
  · intro index c pen hat hchar
    obtain ⟨a, rfl, -, hbold⟩ := hstyled index c pen hat hchar
    rw [← hbold]
    simp [Pen.of, Weight.isBold]

/-! ## A run of the program -/

/-- The library with which the program starts. -/
def opened (e : Environment) (d : Disk) (directories : List Path) : Library :=
  let config := Config.ofEnvironment e
  config.library directories (.openFile d config.settingsFile)

/-- The theme that a name or the preference gives, and the grammar that is given after it. -/
structure Chosen (l : Library) (d : Disk) (theme? grammar? : Option String) (theme : Theme)
    (grammar : Grammar) : Prop where
  theme : (choose d l .theme theme?).2.2 = .ok theme
  grammar : let (l, d, _) := choose d l .theme theme?
    (choose d l .grammar grammar?).2.2 = .ok grammar

theorem Chosen.unique {theme? grammar? : Option String} {theme' : Theme} {grammar' : Grammar}
    (h : Chosen l d theme? grammar? theme grammar) (h' : Chosen l d theme? grammar? theme' grammar') :
    theme = theme' ∧ grammar = grammar' := by
  have htheme := h.theme.symm.trans h'.theme
  have hgrammar := h.grammar.symm.trans h'.grammar
  cases htheme
  cases hgrammar
  exact ⟨rfl, rfl⟩

theorem chosen_of_highlight {c : Config} {file : Path} {theme? grammar? : Option String}
    {markers : List String} {mode : CaseMode} {output : List Char}
    (h : (highlight c d l file theme? grammar? markers mode).2 = .ok output) :
    ∃ text theme grammar, d.readText file = .ok text ∧
      Chosen l d theme? grammar? theme grammar ∧
      output = render (styled c theme grammar markers mode text) := by
  unfold highlight at h
  split at h
  · cases h
  · next text hread =>
    split at h
    · cases h
    · next l' d' theme htheme =>
      split at h
      · cases h
      · next l'' d'' grammar hgrammar =>
        cases h
        refine ⟨text, theme, grammar, hread, ⟨?_, ?_⟩, rfl⟩
        · rw [htheme]
        · rw [htheme]
          simp only
          rw [hgrammar]

section

variable [Manual] {e : Environment} {arguments : List String} {directories : List Path} {file : Path}
  {theme? grammar? : Option String} {markers : List String} {mode : CaseMode}

theorem output_of_success
    (asked : Request.ofArguments? arguments =
      some (.command directories (.highlight file theme? grammar? markers mode)))
    (succeeded : (run e d arguments).exitCode = 0) :
    ∃ text theme grammar, d.readText file = .ok text ∧
      Chosen (opened e d directories) d theme? grammar? theme grammar ∧
      (run e d arguments).output =
        closed (render (styled (.ofEnvironment e) theme grammar markers mode text)) := by
  have hrun : run e d arguments =
      execute e d directories (.highlight file theme? grammar? markers mode) := by
    unfold run
    rw [asked]
  rw [hrun] at succeeded ⊢
  unfold execute at succeeded ⊢
  simp only at succeeded ⊢
  split at succeeded
  · next d' output hhighlight =>
    obtain ⟨text, theme, grammar, hread, hchosen, rfl⟩ :=
      chosen_of_highlight (congrArg Prod.snd hhighlight)
    exact ⟨text, theme, grammar, hread, hchosen, rfl⟩
  · cases succeeded

/-- A run that highlights a file with success prints what shows it, in the theme and by the grammar that
are chosen. -/
theorem run_shows_file
    (asked : Request.ofArguments? arguments =
      some (.command directories (.highlight file theme? grammar? markers mode)))
    (succeeded : (run e d arguments).exitCode = 0) :
    ∃ text theme grammar, d.readText file = .ok text ∧
      Chosen (opened e d directories) d theme? grammar? theme grammar ∧
      ('\x1b' ∉ text → ShowsFile theme grammar (IsMarked markers mode text) text
        (interpret .cleared (run e d arguments).output).1) := by
  obtain ⟨text, theme, grammar, hread, hchosen, houtput⟩ := output_of_success asked succeeded
  refine ⟨text, theme, grammar, hread, hchosen, ?_⟩
  intro plain
  rw [houtput]
  exact showsFile_styled _ theme grammar markers mode plain

end

theorem run_shows_file_two_lines :
    let d : Disk := ⟨[(["f"], .file [73, 70, 226, 137, 160, 10, 105, 102] false)], []⟩
    let arguments := ["highlight", "f", "--theme", "Prime Light", "--bold", "f≠", "--bold=IF",
      "--ignore-case"]
    Request.ofArguments? arguments =
        some (.command [] (.highlight ⟨"f"⟩ (some "Prime Light") none ["f≠", "IF"] .ignored)) ∧
      (run ⟨[], ⟨"/"⟩⟩ d arguments).exitCode = 0 ∧
      ∃ text theme grammar, d.readText ⟨"f"⟩ = .ok text ∧
        Chosen (opened ⟨[], ⟨"/"⟩⟩ d []) d (some "Prime Light") none theme grammar ∧
        ('\x1b' ∉ text → ShowsFile theme grammar (IsMarked ["f≠", "IF"] .ignored text) text
          (interpret .cleared (run ⟨[], ⟨"/"⟩⟩ d arguments).output).1) := by
  intro d arguments
  have asked : Request.ofArguments? arguments =
      some (.command [] (.highlight ⟨"f"⟩ (some "Prime Light") none ["f≠", "IF"] .ignored)) := by
    decide +kernel
  have succeeded : (run ⟨[], ⟨"/"⟩⟩ d arguments).exitCode = 0 := by decide +kernel
  exact ⟨asked, succeeded, run_shows_file asked succeeded⟩

/-- A marker stands at the character, whether it is taken there or not. -/
def IsCovered (markers : List String) (mode : CaseMode) (text : List Char) (index : Nat) : Prop :=
  ∃ marker ∈ markers, ∃ start, Occurrences.OccursAt mode marker.toList text start ∧
    start ≤ index ∧ index < start + marker.toList.length

/-- A character is not always bold where a marker stands: two places of a marker can overlap, and then
the scan takes the first of them only. -/
theorem overlapping_place_stays_plain :
    ¬ ∀ (e : Environment) (d : Disk) (arguments : List String) (directories : List Path) (file : Path)
        (theme? grammar? : Option String) (markers : List String) (mode : CaseMode),
      Request.ofArguments? arguments =
        some (.command directories (.highlight file theme? grammar? markers mode)) →
      (run e d arguments).exitCode = 0 →
      ∃ text theme grammar, d.readText file = .ok text ∧
        Chosen (opened e d directories) d theme? grammar? theme grammar ∧
        ('\x1b' ∉ text → ShowsFile theme grammar (IsCovered markers mode text) text
          (interpret .cleared (run e d arguments).output).1) := by
  intro h
  have asked : Request.ofArguments? ["highlight", "f", "--bold", "aa"] =
      some (.command [] (.highlight ⟨"f"⟩ none none ["aa"] .sensitive)) := by decide +kernel
  generalize hd : (⟨[(["f"], .file [97, 97, 97] false)], []⟩ : Disk) = d
  generalize he : (⟨[], ⟨"/"⟩⟩ : Environment) = e
  have succeeded : (run e d ["highlight", "f", "--bold", "aa"]).exitCode = 0 := by
    subst hd he
    decide +kernel
  have htext : d.readText ⟨"f"⟩ = .ok ['a', 'a', 'a'] := by
    subst hd
    decide +kernel
  have hdark : (choose d (opened e d []) .theme none).2.2.toOption = some Builtin.dark := by
    subst hd he
    decide +kernel
  obtain ⟨text, theme, grammar, hread, hchosen, hshows⟩ := h e d _ _ _ _ _ _ _ asked succeeded
  obtain ⟨text', theme', grammar', hread', hchosen', houtput⟩ := output_of_success asked succeeded
  obtain ⟨rfl, rfl⟩ := hchosen.unique hchosen'
  cases htext.symm.trans hread
  cases htext.symm.trans hread'
  rw [hchosen.theme] at hdark
  cases hdark
  have plain : '\x1b' ∉ ['a', 'a', 'a'] := by decide
  have hcovers := hshows plain
  have hmarks := showsFile_styled (.ofEnvironment e) Builtin.dark grammar ["aa"] .sensitive plain
  rw [← houtput] at hmarks
  generalize (interpret .cleared (run e d _).output).1 = shown at hcovers hmarks
  obtain ⟨⟨c, pen⟩, hat, hc⟩ : ∃ p, shown[2]? = some p ∧ p.1 = 'a' := by
    have hthird := congrArg (·[2]?) hmarks.characters
    simpa using hthird
  obtain rfl : c = 'a' := hc
  -- The last character lies in the second of two places, which starts in the middle of the first.
  have hcovered : IsCovered ["aa"] .sensitive ['a', 'a', 'a'] 2 := by
    refine ⟨"aa", List.mem_singleton.mpr rfl, 1, ⟨['a'], ['a', 'a'], [], rfl, rfl, ?_⟩, ?_⟩
    · exact .cons rfl (.cons rfl .nil)
    · decide
  have hunmarked : ¬ IsMarked ["aa"] .sensitive ['a', 'a', 'a'] 2 := by
    rintro ⟨marker, hmarker, hmarked⟩
    rw [List.mem_singleton.mp hmarker, ← Occurrences.any_find_iff (by decide)] at hmarked
    exact absurd hmarked (by decide)
  have hbold := (hcovers.weights 2 'a' pen hat (by decide)).mpr (.inr hcovered)
  rcases (hmarks.weights 2 'a' pen hat (by decide)).mp hbold with hheavy | hmarked
  · exact absurd hheavy (by decide)
  · exact hunmarked hmarked

end CommandLine

end CodeEditor
