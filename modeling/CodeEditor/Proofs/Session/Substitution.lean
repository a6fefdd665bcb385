import CodeEditor.Proofs.Session.Edits

/-! # Operators substituted while typing

A text that is typed in and ends in two characters that stand for an operator gets the operator in
their place, as an edit of its own: one undo brings the two characters back, and another one takes the
typed text away.
-/

namespace CodeEditor

namespace Substitution

/-! ## The table -/

variable {a b : Substitution} {text : List Char}

theorem length_typed (h : a ∈ all) : a.typed.length = 2 := by
  have hall : ∀ a ∈ all, a.typed.length = 2 := by decide
  exact hall a h

theorem glyph_not_mem_typed (ha : a ∈ all) (hb : b ∈ all) : a.glyph ∉ b.typed := by
  have hall : ∀ a ∈ all, ∀ b ∈ all, a.glyph ∉ b.typed := by decide
  exact hall a ha b hb

theorem eq_of_suffix (ha : a ∈ all) (hb : b ∈ all) (hsa : a.typed <:+ text)
    (hsb : b.typed <:+ text) : a = b := by
  have hall : ∀ a ∈ all, ∀ b ∈ all, a.typed = b.typed → a = b := by decide
  have hlength : a.typed.length = b.typed.length := by rw [length_typed ha, length_typed hb]
  have hsuffix := List.suffix_of_suffix_length_le hsa hsb hlength.le
  exact hall a ha b hb (hsuffix.eq_of_length hlength)

theorem find?_eq_none_iff : find? text = none ↔ ∀ a ∈ all, ¬ a.typed <:+ text := by
  simp [find?, List.find?_eq_none]

theorem find?_eq_some_iff : find? text = some a ↔ a ∈ all ∧ a.typed <:+ text := by
  constructor
  · intro h
    have hsuffix := List.find?_some h
    rw [List.isSuffixOf_iff_suffix] at hsuffix
    exact ⟨List.mem_of_find?_eq_some h, hsuffix⟩
  · rintro ⟨ha, hsuffix⟩
    cases hfound : find? text with
    | none => exact absurd hsuffix (find?_eq_none_iff.mp hfound a ha)
    | some b =>
      have hb := List.find?_some hfound
      rw [List.isSuffixOf_iff_suffix] at hb
      rw [eq_of_suffix (List.mem_of_find?_eq_some hfound) ha hb hsuffix]

theorem suffix_last_iff (ha : a ∈ all) :
    a.typed <:+ text.drop (text.length - reach) ↔ a.typed <:+ text := by
  have hdrop := List.drop_suffix (text.length - reach) text
  constructor
  · intro h
    exact h.trans hdrop
  · intro h
    have hlength := h.length_le
    have htyped := length_typed ha
    apply List.suffix_of_suffix_length_le h hdrop
    rw [List.length_drop]
    simp only [reach]
    omega

theorem find?_last (text : List Char) :
    find? (text.drop (text.length - reach)) = find? text := by
  cases hfound : find? text with
  | none =>
    rw [find?_eq_none_iff] at hfound ⊢
    intro a ha
    rw [suffix_last_iff ha]
    exact hfound a ha
  | some a =>
    rw [find?_eq_some_iff] at hfound ⊢
    exact ⟨hfound.1, (suffix_last_iff hfound.1).mpr hfound.2⟩

theorem find?_glyph (ha : a ∈ all) (text : List Char) : find? (text ++ [a.glyph]) = none := by
  rw [find?_eq_none_iff]
  intro b hb hsuffix
  rcases List.suffix_concat_iff.mp hsuffix with hnil | ⟨front, htyped, -⟩
  · have := length_typed hb
    rw [hnil] at this
    cases this
  · apply glyph_not_mem_typed ha hb
    rw [htyped]
    simp

end Substitution

namespace Session

variable {options : EditorOptions} {s : Session}

variable {before after : List Char}

/-! ## The substitution -/

theorem smartSubstitution_edit (s : Session) (span : Span) (text : List Char)
    (intent? : Option Intent) (cursor? : Option Nat) :
    (s.edit span text intent? cursor?).1.smartSubstitution = s.smartSubstitution := by
  unfold edit
  simp only
  split <;> rfl

theorem find?_before (htext : s.buffer.text = before ++ after) (hcursor : s.cursor = before.length) :
    Substitution.find? (s.buffer.slice ⟨s.cursor - Substitution.reach, s.cursor⟩) =
      Substitution.find? before := by
  rw [Buffer.slice, htext, hcursor, List.take_left]
  exact Substitution.find?_last before

theorem substitute_of_none (htext : s.buffer.text = before ++ after)
    (hcursor : s.cursor = before.length) (hnone : Substitution.find? before = none) :
    s.substitute = s := by
  unfold substitute
  rw [find?_before htext hcursor, hnone]
  split <;> rfl

theorem substitute_leadsTo (smart : s.smartSubstitution = true)
    (htext : s.buffer.text = before ++ after) (hcursor : s.cursor = before.length)
    {a : Substitution} (hfound : Substitution.find? before = some a) :
    s.LeadsTo s.substitute (before.take (before.length - 2) ++ a.glyph :: after) (before.length - 1)
      (Text.byteLength a.typed + a.glyph.utf8Size) := by
  obtain ⟨ha, front, hfront⟩ := Substitution.find?_eq_some_iff.mp hfound
  have htyped : a.typed.length = 2 := Substitution.length_typed ha
  have hsize : a.size = 2 := htyped
  have hlength : before.length = front.length + 2 := by
    rw [← hfront, List.length_append, htyped]
  have htake : before.take (before.length - 2) = front := by
    rw [hlength, Nat.add_sub_cancel, ← hfront, List.take_left]
  have inside : s.cursor ≤ s.buffer.length := by
    rw [hcursor, Buffer.length, htext, List.length_append]
    exact Nat.le_add_right _ _
  have hpieces : s.buffer.text = front ++ a.typed ++ after := by rw [htext, hfront]
  have something : ¬ (a.typed = [] ∧ [a.glyph] = []) := by simp
  obtain ⟨-, hedit⟩ := edit_leadsTo inside hpieces something .substitution (some (front.length + 1))
  have hsubstitute : s.substitute = (s.edit ⟨front.length, front.length + a.typed.length⟩ [a.glyph]
      (some .substitution) (some (front.length + 1))).1 := by
    unfold substitute
    rw [if_pos smart, find?_before htext hcursor, hfound]
    simp only [hcursor, hlength, hsize, htyped, Nat.add_sub_cancel]
  rw [← hsubstitute] at hedit
  convert hedit using 1
  · rw [htake]
    simp
  · rw [hlength, Option.getD_some]
    simp
  · simp

/-! ## Typing -/

/-- The text up to the end of what is typed. -/
def upTo (s : Session) (t : List Char) : List Char :=
  s.text.take s.selection.editSpan.start ++ t

/-- The text after what is typed. -/
def following (s : Session) : List Char := s.text.drop s.selection.editSpan.stop

def Part.isSubstitution : Part → Bool
  | .edit _ _ .substitution _ => true
  | _ => false

/-- One undo brings back what was typed, and another one what was there before. -/
structure UndoneInTwo (s : Session) (t : List Char) (after : Session) : Prop where
  typed : after.undo.2 = true ∧ after.undo.1.text = s.upTo t ++ s.following ∧
    after.undo.1.cursor = (s.upTo t).length
  before : after.undo.1.undo.2 = true ∧ after.undo.1.undo.1.text = s.text ∧
    after.undo.1.undo.1.cursor = s.cursor

/-- What typing leads to when operators are substituted. -/
structure TypedSmartly (s : Session) (t : List Char) (after : Session) : Prop where
  found : ∀ a ∈ Substitution.all, a.typed <:+ s.upTo t →
    after.text = (s.upTo t).take ((s.upTo t).length - 2) ++ a.glyph :: s.following ∧
      after.cursor = (s.upTo t).length - 1
  notFound : (∀ a ∈ Substitution.all, ¬ a.typed <:+ s.upTo t) →
    after.text = s.upTo t ++ s.following ∧ after.cursor = (s.upTo t).length
  parts : s.steps (s.smartParts s.selection.editSpan t .insert) = after
  once : (s.smartParts s.selection.editSpan t .insert).countP (·.isSubstitution) ≤ 1
  still : after.substitute = after
  unambiguous : ∀ a ∈ Substitution.all, ∀ b ∈ Substitution.all, a.typed <:+ s.upTo t →
    b.typed <:+ s.upTo t → a = b
  near : Substitution.find? ((s.upTo t).drop ((s.upTo t).length - 3)) =
    Substitution.find? (s.upTo t)
  undone : s.options.joinTyping = false → ∀ a ∈ Substitution.all, a.typed <:+ s.upTo t →
    Text.byteLength (s.buffer.slice s.selection.editSpan) + Text.byteLength t +
        (Text.byteLength a.typed + a.glyph.utf8Size) ≤ History.maxBytes →
      s.UndoneInTwo t after

theorem countP_smartParts_le (s : Session) (span : Span) (t : List Char) :
    (s.smartParts span t .insert).countP (·.isSubstitution) ≤ 1 := by
  have hsubstitute : ∀ s : Session, s.substituteParts.length ≤ 1 := by
    intro s
    unfold substituteParts
    split
    · split <;> simp
    · simp
  unfold smartParts
  rw [List.countP_cons_of_neg (by simp [Part.isSubstitution])]
  split
  · next edited _ => exact List.countP_le_length.trans (hsubstitute edited)
  · simp

theorem insertText_eq_substitute (h : s.Settled options) {t : List Char}
    (changed : (s.insertText t).2 = true) :
    let edited := (s.edit s.selection.editSpan t (some .insert) none).1
    s.insertText t = (edited.substitute, true) ∧
      s.LeadsTo edited (s.upTo t ++ s.following) (s.upTo t).length
        (Text.byteLength (s.buffer.slice s.selection.editSpan) + Text.byteLength t) := by
  obtain ⟨ordered, within⟩ := editSpan_within h.within
  unfold upTo following
  rw [h.text_eq]
  rw [insertText, editSmartly] at changed ⊢
  generalize s.selection.editSpan = span at *
  -- Where an edit changes nothing, nothing is typed.
  have something : ¬ (s.buffer.slice span = [] ∧ t = []) := by
    rintro ⟨hnil, rfl⟩
    have hlength := Buffer.length_slice within
    rw [hnil, List.length_nil] at hlength
    have hnothing : ((span.clamp s.buffer.length).isEmpty && ([] : List Char).isEmpty) = true := by
      rw [Span.clamp_eq_self ordered within, Span.isEmpty]
      simpa using Nat.sub_eq_zero_iff_le.mp hlength.symm
    rw [edit_unchanged hnothing] at changed
    cases changed
  have hstart : (s.buffer.text.take span.start).length = span.start := by
    simp only [List.length_take, Buffer.length] at within ⊢
    omega
  obtain ⟨hdone, hleads⟩ := edit_span_leadsTo h.within.cursor ordered within something .insert
  refine ⟨?_, ?_⟩
  · rcases hedit : s.edit span t (some .insert) none with ⟨edited, done⟩
    rw [hedit] at hdone
    rw [show done = true from hdone]
  · rw [List.length_append, hstart]
    exact hleads

theorem substitute_substitute (smart : s.smartSubstitution = true)
    (htext : s.buffer.text = before ++ after) (hcursor : s.cursor = before.length) :
    s.substitute.substitute = s.substitute := by
  cases hfound : Substitution.find? before with
  | none =>
    have hnone := substitute_of_none htext hcursor hfound
    rw [hnone, hnone]
  | some a =>
    obtain ⟨ha, hsuffix⟩ := Substitution.find?_eq_some_iff.mp hfound
    have hleads := substitute_leadsTo smart htext hcursor hfound
    have hlength := hsuffix.length_le
    rw [Substitution.length_typed ha] at hlength
    have hshown : s.substitute.buffer.text =
        before.take (before.length - 2) ++ [a.glyph] ++ after := by
      rw [hleads.shown]
      simp
    have hplaced : s.substitute.cursor = (before.take (before.length - 2) ++ [a.glyph]).length := by
      rw [hleads.placed]
      simp
      omega
    exact substitute_of_none hshown hplaced (Substitution.find?_glyph ha _)

/-- What typing leads to after any actions while operators are substituted. -/
theorem insertText_substitutes (library : Library) (disk : Disk) (options : EditorOptions)
    (actions : List Action) (t : List Char) :
    let s := (start library disk options).run actions
    s.smartSubstitution = true → (s.insertText t).2 = true → s.TypedSmartly t (s.insertText t).1 := by
  intro s smart changed
  have hsettled : s.Settled options := settled_run library disk options actions
  have hparts : s.steps (s.smartParts s.selection.editSpan t .insert) = (s.insertText t).1 :=
    s.steps_smartParts s.selection.editSpan t .insert
  have hafter : (s.insertText t).1.InStep options := by
    rw [← hparts]
    exact (settled_steps hsettled _).inStep
  obtain ⟨hinsert, hleads⟩ := insertText_eq_substitute hsettled changed
  have hsmart := (s.smartSubstitution_edit s.selection.editSpan t (some .insert) none).trans smart
  have hsubstitute : (s.insertText t).1 =
      (s.edit s.selection.editSpan t (some .insert) none).1.substitute := by rw [hinsert]
  refine ⟨?_, ?_, hparts, s.countP_smartParts_le _ t, ?_, ?_, Substitution.find?_last _, ?_⟩
  · intro a ha hsuffix
    have hglyph := substitute_leadsTo hsmart hleads.shown hleads.placed
      (Substitution.find?_eq_some_iff.mpr ⟨ha, hsuffix⟩)
    rw [← hsubstitute] at hglyph
    exact ⟨hafter.text.symm.trans hglyph.shown, hglyph.placed⟩
  · intro hnone
    have hplain := substitute_of_none hleads.shown hleads.placed
      (Substitution.find?_eq_none_iff.mpr hnone)
    rw [← hsubstitute] at hplain
    refine ⟨hafter.text.symm.trans ?_, ?_⟩
    · rw [hplain, hleads.shown]
    · rw [hplain, hleads.placed]
  · rw [hsubstitute]
    exact substitute_substitute hsmart hleads.shown hleads.placed
  · exact fun a ha b hb hsa hsb => Substitution.eq_of_suffix ha hb hsa hsb
  · intro alone a ha hsuffix fits
    obtain ⟨r, hlinked⟩ := hsettled.linked
    have hjoining : s.history.joining = false := by
      rw [joining_run, ← hsettled.inStep.fixed]
      exact alone
    have hglyph := substitute_leadsTo hsmart hleads.shown hleads.placed
      (Substitution.find?_eq_some_iff.mpr ⟨ha, hsuffix⟩)
    rw [← hsubstitute] at hglyph
    obtain ⟨⟨hdone, htext, hcursor⟩, hdone', htext', hcursor'⟩ :=
      undo_undo_leadsTo hlinked.bounded hjoining hleads hglyph fits
    have hundo := inStep_undo hafter
    have hundo' := inStep_undo hundo
    refine ⟨⟨hdone, hundo.text.symm.trans htext, hcursor⟩, hdone', ?_, hcursor'⟩
    exact hundo'.text.symm.trans (htext'.trans hsettled.text_eq.symm)

theorem insertText_substitutes_selected :
    let s := (start default default .standard).run
      [.execute (.setSmartSubstitution true), .setText ['≤', '!', 'x', '≠'], .aside (.select ⟨2, 3⟩)]
    s.smartSubstitution = true ∧ (s.insertText ['=']).2 = true ∧
      s.TypedSmartly ['='] (s.insertText ['=']).1 ∧
      (s.insertText ['=']).1.buffer.text = ['≤', '≠', '≠'] := by
  intro s
  have smart : s.smartSubstitution = true := by decide
  have changed : (s.insertText ['=']).2 = true := by decide
  exact ⟨smart, changed, insertText_substitutes default default .standard _ ['='] smart changed,
    by decide⟩

end Session

end CodeEditor
