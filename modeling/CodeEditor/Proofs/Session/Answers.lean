import CodeEditor.Proofs.Session.Newline
import CodeEditor.Proofs.Session.Refusal

/-! # What is answered when nothing changes

A command answers whether it did anything. Those that move the cursor, select all, or choose a theme
or a grammar say so even where all that can be seen is as before; here is exactly when. All other
commands tell the truth.
-/

namespace CodeEditor.Session

/-! ## Nothing changes -/

/-- All that commands are there to change is as before. -/
structure Unchanged (s after : Session) : Prop where
  text : after.text = s.text
  cursor : after.cursor = s.cursor
  selected : after.selection.span? = s.selection.span?
  firstVisible : after.firstVisible = s.firstVisible
  theme : after.theme = s.theme
  grammar : after.grammar = s.grammar
  smartSubstitution : after.smartSubstitution = s.smartSubstitution
  done : after.history.done = s.history.done
  undone : after.history.undone = s.history.undone

/-- The cursor is where it is to go, and no selection is dropped on the way. -/
def Stays (s : Session) (position : Nat) (select : Bool) : Prop :=
  s.cursor = position ∧ (select = true ∨ s.selection.span? = none)

/-- The command finds everything as it would leave it, and does not see that. -/
def Idles (s : Session) : Command → Prop
  | .moveLeft select => s.Stays 0 select
  | .moveRight select => s.Stays s.buffer.length select
  | .moveLineStart select => s.Stays (s.buffer.positionOf s.lineColumn.1 0) select
  | .moveLineEnd select =>
    s.Stays (s.buffer.positionOf s.lineColumn.1 (s.buffer.lineLength s.lineColumn.1)) select
  | .selectAll =>
    s.cursor = s.buffer.length ∧ s.selection.span? = (Selection.all s.buffer.length).span?
  | .selectTheme name => s.library.StandsFor s.disk .theme name s.theme
  | .selectGrammar name =>
    s.library.isCurrent .grammar name = false ∧
      s.library.StandsFor s.disk .grammar name s.grammar
  | _ => False

variable {options : EditorOptions} {s after : Session}

theorem Sameness.unchanged_iff (h : s.Sameness after)
    (smart : after.smartSubstitution = s.smartSubstitution) :
    s.Unchanged after ↔ after.theme = s.theme ∧ after.grammar = s.grammar := by
  constructor
  · intro unchanged
    exact ⟨unchanged.theme, unchanged.grammar⟩
  · rintro ⟨theme, grammar⟩
    refine ⟨h.text, ?_, ?_, h.firstVisible, theme, grammar, smart, ?_, ?_⟩
    · rw [cursor, cursor, h.selection]
    · rw [h.selection]
    · rw [h.history]
    · rw [h.history]

/-! ## Moving and selecting -/

theorem unchanged_iff_of_selection (s : Session) (selection : Selection) :
    s.Unchanged ({ s with selection := selection }.announceSelection) ↔
      selection.cursor = s.cursor ∧ selection.span? = s.selection.span? := by
  constructor
  · intro unchanged
    exact ⟨unchanged.cursor, unchanged.selected⟩
  · rintro ⟨hcursor, hselected⟩
    exact ⟨rfl, hcursor, hselected, rfl, rfl, rfl, rfl, rfl, rfl⟩

theorem span?_move {selection : Selection} {position length : Nat} (select : Bool)
    (stays : min position length = selection.cursor) :
    (selection.move position length select).span? =
      if select then selection.span? else none := by
  obtain ⟨cursor, anchor⟩ := selection
  simp only at stays
  cases select with
  | false => simp [Selection.move, Selection.span?]
  | true => cases anchor <;> simp [Selection.move, Selection.span?, stays]

theorem unchanged_moveCursor_iff (s : Session) (position : Nat) (select : Bool) :
    s.Unchanged (s.moveCursor position select) ↔ s.Stays (min position s.buffer.length) select := by
  unfold moveCursor
  rw [unchanged_iff_of_selection]
  unfold Stays
  rw [show (s.selection.move position s.buffer.length select).cursor =
    min position s.buffer.length from rfl, eq_comm (a := min position s.buffer.length)]
  apply and_congr_right
  intro stays
  rw [span?_move select stays.symm]
  cases select <;> simp [eq_comm]

theorem stays_congr {position position' : Nat} {select : Bool}
    (h : select = true ∨ s.selection.span? = none →
      (s.cursor = position ↔ s.cursor = position')) :
    s.Stays position select ↔ s.Stays position' select := by
  unfold Stays
  exact and_congr_left h

theorem leftTarget_eq {select : Bool} (h : select = true ∨ s.selection.span? = none) :
    s.leftTarget select = s.cursor - 1 := by
  unfold leftTarget
  rcases h with rfl | unselected
  · split <;> simp_all
  · simp [unselected]

theorem rightTarget_eq {select : Bool} (h : select = true ∨ s.selection.span? = none) :
    s.rightTarget select = s.cursor + 1 := by
  unfold rightTarget
  rcases h with rfl | unselected
  · split <;> simp_all
  · simp [unselected]

/-! ## Choosing a theme or grammar -/

theorem selectTheme_idle_iff (s : Session) (name : String) :
    (s.selectTheme name).2 = true ∧ s.Unchanged (s.selectTheme name).1 ↔
      s.library.StandsFor s.disk .theme name s.theme := by
  have hsame := s.sameness_selectTheme name
  obtain ⟨theme, library, disk, loads, accepted, hequipment⟩ | ⟨unknown, refused⟩ :=
    s.selectTheme_cases name
  · obtain ⟨htheme, hgrammar, -, -, hsmart⟩ := of_equipment_eq hequipment
    rw [hsame.unchanged_iff hsmart, htheme, hgrammar]
    constructor
    · rintro ⟨-, rfl, -⟩
      exact loads.model
    · intro h
      exact ⟨accepted, loads.model.unique h, rfl⟩
  · simp [refused, unknown]

theorem selectGrammar_idle_iff (s : Session) (name : String) :
    (s.selectGrammar name).2 = true ∧ s.Unchanged (s.selectGrammar name).1 ↔
      s.library.isCurrent .grammar name = false ∧
        s.library.StandsFor s.disk .grammar name s.grammar := by
  have hsame := s.sameness_selectGrammar name
  obtain ⟨other, grammar, library, disk, loads, accepted, hequipment⟩ | ⟨reason, refused⟩ :=
    s.selectGrammar_cases name
  · obtain ⟨htheme, hgrammar, -, -, hsmart⟩ := of_equipment_eq hequipment
    rw [hsame.unchanged_iff hsmart, htheme, hgrammar]
    constructor
    · rintro ⟨-, -, rfl⟩
      exact ⟨other, loads.model⟩
    · rintro ⟨-, h⟩
      exact ⟨accepted, rfl, loads.model.unique h⟩
  · rw [refused]
    constructor
    · rintro ⟨⟨⟩, -⟩
    · rintro ⟨other, h⟩
      rcases reason with current | unknown
      · rw [other] at current
        cases current
      · exact absurd h (unknown _)

/-! ## Edits -/

theorem span?_edit {span : Span} {text : List Char} {intent? : Option Intent} {cursor? : Option Nat}
    (accepted : (s.edit span text intent? cursor?).2 = true) :
    (s.edit span text intent? cursor?).1.selection.span? = none := by
  unfold edit at accepted ⊢
  simp only at accepted ⊢
  split at accepted
  · cases accepted
  · next something =>
    rw [if_neg something]
    rfl

theorem length_edit {span : Span} {text : List Char} {intent? : Option Intent} {cursor? : Option Nat}
    (accepted : (s.edit span text intent? cursor?).2 = true) :
    (s.edit span text intent? cursor?).1.buffer.length + (span.clamp s.buffer.length).size =
      s.buffer.length + text.length := by
  cases hnothing : (span.clamp s.buffer.length).isEmpty && text.isEmpty with
  | true =>
    rw [edit_unchanged hnothing] at accepted
    cases accepted
  | false =>
    obtain ⟨-, hbuffer, -⟩ := edit_changed intent? cursor? hnothing
    rw [hbuffer]
    have := s.buffer.length_replace (span.clamp s.buffer.length) text
    rwa [Span.clamp_clamp] at this

theorem not_unchanged_of_text (h : s.Settled options) (hafter : after.Settled options)
    (dropped : after.selection.span? = none)
    (other : s.selection.span? = none → after.buffer.text ≠ s.buffer.text) :
    ¬ s.Unchanged after := by
  intro unchanged
  have htext := unchanged.text
  rw [h.text_eq, hafter.text_eq] at htext
  refine other ?_ htext
  rw [← unchanged.selected, dropped]

theorem edit_changes (h : s.Settled options) {span : Span} {text : List Char} {intent : Intent}
    {cursor? : Option Nat} (accepted : (s.edit span text (some intent) cursor?).2 = true)
    (resized : s.selection.span? = none → (span.clamp s.buffer.length).size ≠ text.length) :
    ¬ s.Unchanged (s.edit span text (some intent) cursor?).1 := by
  apply not_unchanged_of_text h (settled_step h (.edit span text intent cursor?)) (span?_edit accepted)
  intro unselected same
  have hresized := resized unselected
  have hlength := length_edit accepted
  have hsame : (s.edit span text (some intent) cursor?).1.buffer.length = s.buffer.length :=
    congrArg List.length same
  omega

theorem editSpan_of_unselected (unselected : s.selection.span? = none) :
    s.selection.editSpan = .point s.cursor := by
  simp [Selection.editSpan, unselected, cursor]

theorem upTo_of_unselected (unselected : s.selection.span? = none) (t : List Char) :
    s.upTo t = s.text.take s.cursor ++ t := by
  rw [upTo, editSpan_of_unselected unselected]
  rfl

theorem following_of_unselected (unselected : s.selection.span? = none) :
    s.following = s.text.drop s.cursor := by
  rw [following, editSpan_of_unselected unselected]
  rfl

theorem length_typed_in (unselected : s.selection.span? = none) (t : List Char) :
    (s.upTo t ++ s.following).length = s.text.length + t.length := by
  rw [upTo_of_unselected unselected, following_of_unselected unselected]
  simp
  omega

theorem insertTab_changes (h : s.Settled options) (accepted : s.insertTab.2 = true) :
    ¬ s.Unchanged s.insertTab.1 := by
  unfold insertTab at accepted ⊢
  apply edit_changes h accepted
  intro unselected
  rw [editSpan_of_unselected unselected]
  simp [Span.point, Span.clamp, Span.size]
  omega

theorem backspace_changes (h : s.Settled options) (accepted : s.backspace.2 = true) :
    ¬ s.Unchanged s.backspace.1 := by
  have hinside := h.within.cursor
  unfold backspace at accepted ⊢
  cases hspan : s.selection.span? with
  | some span =>
    rw [hspan] at accepted
    apply edit_changes h accepted
    simp [hspan]
  | none =>
    simp only [hspan] at accepted ⊢
    split at accepted
    · cases accepted
    · next behind =>
      rw [if_neg behind]
      apply edit_changes h accepted
      intro _
      rw [Span.clamp_eq_self (by simp) hinside]
      simp [Span.size]
      omega

theorem deleteForward_changes (h : s.Settled options) (accepted : s.deleteForward.2 = true) :
    ¬ s.Unchanged s.deleteForward.1 := by
  unfold deleteForward at accepted ⊢
  cases hspan : s.selection.span? with
  | some span =>
    rw [hspan] at accepted
    apply edit_changes h accepted
    simp [hspan]
  | none =>
    simp only [hspan] at accepted ⊢
    split at accepted
    · cases accepted
    · next before =>
      rw [if_neg before]
      apply edit_changes h accepted
      intro _
      rw [Span.clamp_eq_self (by simp) (by simp only; omega)]
      simp [Span.size]

theorem span?_edit_of_unselected (unselected : s.selection.span? = none) (span : Span)
    (text : List Char) (intent? : Option Intent) (cursor? : Option Nat) :
    (s.edit span text intent? cursor?).1.selection.span? = none := by
  cases accepted : (s.edit span text intent? cursor?).2 with
  | true => exact span?_edit accepted
  | false =>
    rw [edit_refused accepted]
    exact unselected

theorem insertNewline_changes (h : s.Settled options) : ¬ s.Unchanged s.insertNewline.1 := by
  have hafter : s.insertNewline.1.Settled options := by
    rw [← steps_newlineParts]
    exact settled_steps h _
  have hbroken : s.broken.selection.span? = none := by
    apply span?_edit
    rw [edit_newline]
  apply not_unchanged_of_text h hafter
  · rw [insertNewline_eq]
    simp only
    split
    · exact hbroken
    · exact span?_edit_of_unselected hbroken _ _ _ _
  · intro unselected same
    obtain ⟨hshown, -⟩ := insertNewline_shown h
    have hlength := congrArg List.length same
    rw [hshown, length_typed_in unselected, h.text_eq] at hlength
    simp at hlength

/-! ## Typing -/

theorem span?_substitute (unselected : s.selection.span? = none) :
    s.substitute.selection.span? = none := by
  unfold substitute
  split
  · split
    · exact unselected
    · exact span?_edit_of_unselected unselected _ _ _ _
  · exact unselected

theorem substitute_cases {before after : List Char} (htext : s.buffer.text = before ++ after)
    (hcursor : s.cursor = before.length) :
    s.substitute = s ∨ ∃ a ∈ Substitution.all, a.typed <:+ before ∧
      s.substitute.buffer.text = before.take (before.length - 2) ++ a.glyph :: after := by
  cases smart : s.smartSubstitution with
  | false =>
    left
    simp [substitute, smart]
  | true =>
    cases hfound : Substitution.find? before with
    | none => exact .inl (substitute_of_none htext hcursor hfound)
    | some a =>
      obtain ⟨ha, hsuffix⟩ := Substitution.find?_eq_some_iff.mp hfound
      exact .inr ⟨a, ha, hsuffix, (substitute_leadsTo smart htext hcursor hfound).shown⟩

/-- A glyph in place of the two characters before the cursor leaves another text than there was before
typing: the glyph would have to be one of the two. -/
theorem substituted_ne {a : Substitution} (ha : a ∈ Substitution.all) {before typed after : List Char}
    (hsuffix : a.typed <:+ before ++ typed) (filled : typed ≠ []) :
    (before ++ typed).take ((before ++ typed).length - 2) ++ a.glyph :: after ≠ before ++ after := by
  intro same
  have htyped := Substitution.length_typed ha
  have hlong := hsuffix.length_le
  generalize hfront : (before ++ typed).take ((before ++ typed).length - 2) = front at same
  have hlength : front.length + 2 = (before ++ typed).length := by
    rw [← hfront, List.length_take]
    omega
  -- Both texts end alike, so the glyph would be what stood before the cursor, and only one character
  -- could have been typed behind it.
  have hbefore : front ++ [a.glyph] = before := by
    rw [List.append_cons] at same
    exact List.append_cancel_right same
  subst hbefore
  obtain ⟨x, rfl⟩ : ∃ x, typed = [x] := by
    apply List.length_eq_one_iff.mp
    have := List.length_pos_iff.mpr filled
    simp at hlength
    omega
  have hlast : [a.glyph, x] <:+ front ++ [a.glyph] ++ [x] := ⟨front, by simp⟩
  have hsame : a.typed = [a.glyph, x] := by
    apply (List.suffix_of_suffix_length_le hsuffix hlast (by simp [htyped])).eq_of_length
    simp [htyped]
  apply Substitution.glyph_not_mem_typed ha ha
  simp [hsame]

theorem edit_of_insertText {t : List Char} (accepted : (s.insertText t).2 = true) :
    (s.edit s.selection.editSpan t (some .insert) none).2 = true := by
  unfold insertText editSmartly at accepted
  generalize s.edit s.selection.editSpan t (some .insert) none = r at accepted ⊢
  obtain ⟨edited, changed⟩ := r
  cases changed with
  | true => rfl
  | false => cases accepted

theorem ne_nil_of_insertText (unselected : s.selection.span? = none) {t : List Char}
    (accepted : (s.insertText t).2 = true) : t ≠ [] := by
  rintro rfl
  have hedit := edit_of_insertText accepted
  rw [editSpan_of_unselected unselected, edit_unchanged] at hedit
  · cases hedit
  · simp [Span.point, Span.clamp, Span.isEmpty]

theorem insertText_changes (h : s.Settled options) {t : List Char}
    (accepted : (s.insertText t).2 = true) : ¬ s.Unchanged (s.insertText t).1 := by
  have hafter : (s.insertText t).1.Settled options := by
    rw [insertText, ← steps_smartParts]
    exact settled_steps h _
  obtain ⟨hinsert, hleads⟩ := insertText_eq_substitute h accepted
  have hdropped := span?_edit (edit_of_insertText accepted)
  rw [hinsert] at hafter ⊢
  apply not_unchanged_of_text h hafter (span?_substitute hdropped)
  intro unselected same
  have filled := ne_nil_of_insertText unselected accepted
  rw [← h.text_eq] at same
  obtain hplain | ⟨a, ha, hsuffix, hglyph⟩ := substitute_cases hleads.shown hleads.placed
  · rw [hplain, hleads.shown] at same
    have hlength := congrArg List.length same
    rw [length_typed_in unselected] at hlength
    simp [filled] at hlength
  · rw [hglyph, upTo_of_unselected unselected, following_of_unselected unselected] at same
    rw [upTo_of_unselected unselected] at hsuffix
    apply substituted_ne ha hsuffix filled
    rw [same, List.take_append_drop]

/-! ## Other commands -/

theorem undo_changes (accepted : s.undo.2 = true) : ¬ s.Unchanged s.undo.1 := by
  intro unchanged
  have := s.done_undo_lt accepted
  rw [unchanged.done] at this
  omega

theorem redo_changes (accepted : s.redo.2 = true) : ¬ s.Unchanged s.redo.1 := by
  intro unchanged
  have := s.undone_redo_lt accepted
  rw [unchanged.undone] at this
  omega

theorem scrollTo_changes {position : Nat} (accepted : (s.scrollTo position).2 = true) :
    ¬ s.Unchanged (s.scrollTo position).1 := by
  intro unchanged
  have hfirst := unchanged.firstVisible
  unfold scrollTo at accepted hfirst
  simp only at accepted hfirst
  split at accepted
  · cases accepted
  · next moves =>
    rw [if_neg moves] at hfirst
    exact moves hfirst

theorem setSmartSubstitution_changes {enabled : Bool} (other : s.smartSubstitution ≠ enabled) :
    ¬ s.Unchanged (s.setSmartSubstitution enabled) := by
  intro unchanged
  exact other unchanged.smartSubstitution.symm

/-! ## Every command -/

/-- A command answers that it did something where nothing has changed in exactly these cases. -/
theorem execute_idle_iff (h : s.Settled options) (command : Command) :
    (s.execute command).2 = true ∧ s.Unchanged (s.execute command).1 ↔ s.Idles command := by
  have hinside := h.within.cursor
  -- Moves and selecting all answer without looking; what else answers so has changed something.
  cases command <;> simp only [execute, Idles]
  case insertText text =>
    simp only [iff_false, not_and]
    exact insertText_changes h
  case insertNewline =>
    simp only [iff_false, not_and]
    exact fun _ => insertNewline_changes h
  case insertTab =>
    simp only [iff_false, not_and]
    exact insertTab_changes h
  case backspace =>
    simp only [iff_false, not_and]
    exact backspace_changes h
  case deleteForward =>
    simp only [iff_false, not_and]
    exact deleteForward_changes h
  case moveLeft select =>
    simp only [true_and]
    rw [unchanged_moveCursor_iff]
    apply stays_congr
    intro kept
    rw [leftTarget_eq kept]
    omega
  case moveRight select =>
    simp only [true_and]
    rw [unchanged_moveCursor_iff]
    apply stays_congr
    intro kept
    rw [rightTarget_eq kept]
    omega
  case moveLineStart select =>
    simp only [true_and]
    rw [unchanged_moveCursor_iff, min_eq_left (s.buffer.positionOf_le _ _)]
  case moveLineEnd select =>
    simp only [true_and]
    rw [unchanged_moveCursor_iff, min_eq_left (s.buffer.positionOf_le _ _)]
  case selectAll =>
    simp only [true_and]
    rw [selectAll, unchanged_iff_of_selection]
    simp [eq_comm, Selection.all, Selection.over, Span.clamp]
  case undo =>
    simp only [iff_false, not_and]
    exact undo_changes
  case redo =>
    simp only [iff_false, not_and]
    exact redo_changes
  case selectTheme name => exact s.selectTheme_idle_iff name
  case selectGrammar name => exact s.selectGrammar_idle_iff name
  case setSmartSubstitution enabled =>
    simp only [iff_false, not_and, bne_iff_ne]
    exact setSmartSubstitution_changes
  case toggleSmartSubstitution =>
    simp only [iff_false, not_and]
    exact fun _ => setSmartSubstitution_changes (by simp)
  case scrollTo position =>
    simp only [iff_false, not_and]
    exact scrollTo_changes

/-- In every state that is reached, a command answers that it did something where nothing has changed in
exactly these cases, and what the user does is answered so just where it leads to such a command. -/
theorem true_for_nothing_iff (library : Library) (disk : Disk) (options : EditorOptions)
    (actions : List Action) :
    let s := (start library disk options).run actions
    (∀ command, (s.execute command).2 = true ∧ s.Unchanged (s.execute command).1 ↔
      s.Idles command) ∧
    ∀ event, (s.handle event).2 = true ∧ s.Unchanged (s.handle event).1 ↔
      ∃ command, s.bindings.resolve event = some command ∧ s.Idles command := by
  intro s
  have hsettled : s.Settled options := settled_run library disk options actions
  refine ⟨execute_idle_iff hsettled, fun event => ?_⟩
  unfold handle
  cases s.bindings.resolve event with
  | none => simp
  | some command => simp [execute_idle_iff hsettled command]

/-- There is nowhere to go to the left in a surface where nothing has been done, and the answer is that the
cursor went there. -/
theorem moveLeft_at_start_answers :
    let s := start default default .standard
    (s.execute (.moveLeft false)).2 = true ∧ s.Unchanged (s.execute (.moveLeft false)).1 := by
  intro s
  have hsettled : s.Settled .standard := settled_run default default .standard []
  exact (execute_idle_iff hsettled _).mpr ⟨rfl, .inr rfl⟩

end CodeEditor.Session
