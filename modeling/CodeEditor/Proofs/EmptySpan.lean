import CodeEditor.Proofs.Bytes

/-! # Spans that hold no byte

Over a span that stops before it goes on, a replacement only inserts and a change of attributes
changes nothing, unless both ends lie inside one character: then the span is widened to it.
-/

namespace CodeEditor

/-! ## Widening a span that holds no byte -/

namespace Text

/-- Both ends of `s` lie inside one character, whose bytes are `whole`. -/
def Inside (text : List Char) (s whole : Span) : Prop :=
  (∃ before c after, text = before ++ c :: after ∧
    whole = ⟨byteLength before, byteLength before + c.utf8Size⟩) ∧
  whole.start < s.start ∧ s.start < whole.stop ∧ whole.start < s.stop ∧ s.stop < whole.stop

section Character

variable {before after : List Char} {c : Char} {byte : Nat}

theorem floorBoundary_inside (past : byteLength before ≤ byte)
    (inside : byte < byteLength before + c.utf8Size) :
    floorBoundary (before ++ c :: after) byte = byteLength before := by
  have hle := floorBoundary_le (before ++ c :: after) byte
  have hge : byteLength before ≤ floorBoundary (before ++ c :: after) byte :=
    le_floorBoundary isBoundary_ahead past
  by_contra hne
  have := behind_le_of_isBoundary (isBoundary_floorBoundary (before ++ c :: after) byte) (by omega)
  omega

theorem ceilBoundary_inside (past : byteLength before < byte)
    (inside : byte ≤ byteLength before + c.utf8Size) :
    ceilBoundary (before ++ c :: after) byte = byteLength before + c.utf8Size := by
  have hle : ceilBoundary (before ++ c :: after) byte ≤ byteLength before + c.utf8Size :=
    ceilBoundary_le isBoundary_behind (by omega)
  have hge := min_le_ceilBoundary (before ++ c :: after) byte
  have hend : byteLength before + c.utf8Size ≤ byteLength (before ++ c :: after) :=
    isBoundary_behind.le_byteLength
  have := behind_le_of_isBoundary (isBoundary_ceilBoundary (before ++ c :: after) byte) (by omega)
  omega

end Character

variable {text : List Char} {s whole : Span}

theorem snap_of_inside (h : Inside text s whole) : snap text s = whole := by
  obtain ⟨⟨before, c, after, rfl, rfl⟩, hstart, hstart', hstop, hstop'⟩ := h
  simp only [snap]
  rw [floorBoundary_inside hstart.le hstart', ceilBoundary_inside hstop hstop'.le]
  simp

theorem ordered_of_inside (h : Inside text s whole) : whole.start < whole.stop := by
  obtain ⟨-, hstart, hstart', -⟩ := h
  omega

theorem exists_char_of_isBoundary {byte : Nat} (h : IsBoundary text byte)
    (inside : byte < byteLength text) :
    ∃ before c after, text = before ++ c :: after ∧ byteLength before = byte := by
  obtain ⟨before, after, rfl, rfl⟩ := h
  cases after with
  | nil => simp at inside
  | cons c after => exact ⟨before, c, after, rfl, rfl⟩

theorem ceilBoundary_le_floorBoundary (reversed : s.stop ≤ s.start)
    (apart : ∀ whole, ¬ Inside text s whole) :
    ceilBoundary text s.stop ≤ floorBoundary text s.start := by
  have hfloor := floorBoundary_le text s.start
  have hboundary := isBoundary_floorBoundary text s.start
  apply ceilBoundary_le hboundary
  by_contra hpast
  obtain ⟨before, c, after, htext, hbefore⟩ := exists_char_of_isBoundary hboundary (by omega)
  have hbehind : IsBoundary text (byteLength before + c.utf8Size) := htext ▸ isBoundary_behind
  -- The floor of the start is not behind the character, so neither end is.
  have hinside : s.start < byteLength before + c.utf8Size := by
    by_contra hle
    have := le_floorBoundary hbehind (Nat.le_of_not_lt hle)
    have := c.utf8Size_pos
    omega
  apply apart ⟨byteLength before, byteLength before + c.utf8Size⟩
  exact ⟨⟨before, c, after, htext, rfl⟩, by simp; omega, hinside, by simp; omega, by simp; omega⟩

theorem snap_of_reversed (reversed : s.stop ≤ s.start) (apart : ∀ whole, ¬ Inside text s whole) :
    snap text s = Span.point (floorBoundary text s.start) := by
  simp [snap, Span.point, ceilBoundary_le_floorBoundary reversed apart]

end Text

namespace StyledText

variable {t : StyledText} {s whole : Span}

/-! ## Changes of attributes -/

theorem batch_congr {changes changes' : List Restyle}
    (h : t.restyledRuns changes = t.restyledRuns changes') (committed : Bool) :
    t.batch changes committed = t.batch changes' committed := by
  rw [batch_eq_restyle, batch_eq_restyle, restyle_eq, restyle_eq, h]

theorem batch_skip {r : Restyle} (empty : (Text.snap t.text r.span).isEmpty)
    (earlier later : List Restyle) (committed : Bool) :
    t.batch (earlier ++ r :: later) committed = t.batch (earlier ++ later) committed := by
  have hskip : ∀ runs, restyleRuns t.text runs r = runs := by
    intro runs
    simp [restyleRuns, empty]
  apply batch_congr
  simp [restyledRuns, hskip]

theorem batch_resnap (h : Text.snap t.text s = Text.snap t.text whole)
    (earlier later : List Restyle) (change : Attributes → Attributes) (committed : Bool) :
    t.batch (earlier ++ ⟨s, change⟩ :: later) committed =
      t.batch (earlier ++ ⟨whole, change⟩ :: later) committed := by
  have hsame : ∀ runs, restyleRuns t.text runs ⟨s, change⟩ =
      restyleRuns t.text runs ⟨whole, change⟩ := by
    intro runs
    simp [restyleRuns, h]
  apply batch_congr
  simp [restyledRuns, hsame]

/-! ## Replacements -/

/-- After text in one style has been put in, nothing being taken away. -/
structure Inserted (t : StyledText) (position : Nat) (text : List Char) (a : Attributes)
    (t' : StyledText) : Prop where
  joined : ∃ before after, t.text = before ++ after ∧ Text.byteLength before = position ∧
    t'.text = before ++ text ++ after
  before : ∀ byte < position, SameLook (t'.attributesAt? byte) (t.attributesAt? byte)
  inserted : ∀ byte < Text.byteLength text, SameLook (t'.attributesAt? (position + byte)) (some a)
  after : ∀ byte ≥ position,
    SameLook (t'.attributesAt? (byte + Text.byteLength text)) (t.attributesAt? byte)

theorem Replaced.inserted_point {position : Nat} {text : List Char} {a : Attributes}
    {t' : StyledText} (h : t.Replaced (Span.point position) text a t') :
    t.Inserted position text a t' where
  joined := by
    obtain ⟨before, inside, after, htext, hstart, hstop, htext'⟩ := h.cut
    have hinside : inside = [] := by
      rw [← Text.byteLength_eq_zero]
      simp only [Span.point, Text.byteLength_append] at hstart hstop
      omega
    subst hinside
    exact ⟨before, after, by simpa using htext, hstart, htext'⟩
  before := h.before
  inserted := h.inserted
  after byte hbyte := by
    have hafter := h.after (byte - position)
    have hnew : position + Text.byteLength text + (byte - position) =
        byte + Text.byteLength text := by omega
    have hold : position + (byte - position) = byte := by omega
    simp only [Span.point] at hafter
    rwa [hnew, hold] at hafter

/-- Over the span nothing is deleted and nothing painted. -/
structure LeavesBytes (t : StyledText) (s : Span) : Prop where
  replace : ∀ text a, t.Inserted (Text.floorBoundary t.text s.start) text a (t.replace s text a)
  batch : ∀ earlier change later committed,
    t.batch (earlier ++ ⟨s, change⟩ :: later) committed = t.batch (earlier ++ later) committed

/-- Over the one span replacements and changes of attributes do what they do over the other. -/
structure ActsAs (t : StyledText) (s whole : Span) : Prop where
  replace : ∀ text a, t.Replaced whole text a (t.replace s text a)
  batch : ∀ earlier change later committed,
    t.batch (earlier ++ ⟨s, change⟩ :: later) committed =
      t.batch (earlier ++ ⟨whole, change⟩ :: later) committed

theorem leavesBytes_of_reversed (h : t.Sound) (reversed : s.stop ≤ s.start)
    (apart : ∀ whole, ¬ Text.Inside t.text s whole) : t.LeavesBytes s where
  replace text a := by
    have hreplaced := replaced_replace h s text a
    rw [Text.snap_of_reversed reversed apart] at hreplaced
    exact hreplaced.inserted_point
  batch earlier change later committed := by
    apply batch_skip
    simp [Text.snap_of_reversed reversed apart, Span.point, Span.isEmpty]

theorem actsAs_of_inside (h : t.Sound) (inside : Text.Inside t.text s whole) :
    t.ActsAs s whole where
  replace text a := by
    rw [← Text.snap_of_inside inside]
    exact replaced_replace h s text a
  batch := by
    have hwhole : Text.snap t.text whole = whole := by
      have := Text.snap_of_inside inside
      apply Text.snap_eq_self _ _ (Text.ordered_of_inside inside).le
      · rw [← this]; exact Text.isBoundary_snap_start _ _
      · rw [← this]; exact Text.isBoundary_snap_stop _ _
    intro earlier change later committed
    apply batch_resnap
    rw [Text.snap_of_inside inside, hwhole]

theorem not_leavesBytes_of_inside (h : t.Sound) (inside : Text.Inside t.text s whole) :
    ¬ t.LeavesBytes s := by
  intro leaves
  obtain ⟨before, after, htext, -, htext'⟩ := (leaves.replace [] .standard).joined
  obtain ⟨before', inside', after', hcut, hstart, hstop, hcut'⟩ :=
    ((actsAs_of_inside h inside).replace [] .standard).cut
  have hlength := congrArg Text.byteLength (htext'.symm.trans hcut')
  have hlength' := congrArg Text.byteLength (htext.symm.trans hcut)
  have := Text.ordered_of_inside inside
  simp only [Text.byteLength_append, Text.byteLength_nil] at hlength hlength' hstop
  omega

/-- Over a span that holds no byte nothing is deleted and nothing painted, whatever has been done to
the text before, unless both its ends lie inside one character, which then counts as the span. -/
theorem empty_span_leaves_bytes (text : List Char) (a : Attributes) (operations : List Operation)
    {s : Span} (reversed : s.stop ≤ s.start) :
    let t := (plain text a).applyAll operations
    (t.LeavesBytes s ↔ ¬ ∃ whole, Text.Inside t.text s whole) ∧
      ∀ whole, Text.Inside t.text s whole → t.ActsAs s whole := by
  intro t
  have sound : t.Sound := sound_applyAll (sound_plain text a) operations
  refine ⟨⟨?_, ?_⟩, fun whole inside => actsAs_of_inside sound inside⟩
  · rintro leaves ⟨whole, inside⟩
    exact not_leavesBytes_of_inside sound inside leaves
  · intro apart
    exact leavesBytes_of_reversed sound reversed (not_exists.mp apart)

theorem empty_span_leaves_bytes_reversed :
    (⟨7, 4⟩ : Span).stop ≤ (⟨7, 4⟩ : Span).start ∧
      ((plain ['a', '≠', 'b'] .standard).applyAll
        [.replace ⟨3, 2⟩ ['¬', '≠'] .standard]).LeavesBytes ⟨7, 4⟩ := by
  have reversed : (⟨7, 4⟩ : Span).stop ≤ (⟨7, 4⟩ : Span).start := by decide
  refine ⟨reversed, (empty_span_leaves_bytes _ _ _ reversed).1.mpr ?_⟩
  rintro ⟨whole, inside⟩
  have hsnap := Text.snap_of_inside inside
  rw [show Text.snap _ _ = Span.point 7 by decide] at hsnap
  subst hsnap
  exact absurd inside.2.1 (by decide)

theorem span_inside_character_deletes :
    let t := plain ['≠'] .standard
    let s : Span := ⟨1, 1⟩
    s.stop ≤ s.start ∧ ¬ t.LeavesBytes s ∧ (t.replace s [] .standard).text = [] ∧
      (t.batch [.foreground s (.rgb 255 0 0)] true).foregroundAt? 0 = some (.rgb 255 0 0) := by
  have inside : Text.Inside ['≠'] ⟨1, 1⟩ ⟨0, 3⟩ := ⟨⟨[], '≠', [], rfl, by decide⟩, by decide⟩
  refine ⟨by decide, ?_, by decide, by decide⟩
  exact not_leavesBytes_of_inside (sound_plain ['≠'] .standard) inside

end StyledText

end CodeEditor
