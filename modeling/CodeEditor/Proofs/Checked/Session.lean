import CodeEditor.Proofs.Checked.Buffer
import CodeEditor.Proofs.PlacedText
import CodeEditor.Proofs.Session.Settled

/-! # Calls that stay inside the text

The calls of a session once more, by checked accesses and sums, with the runs of the display kept by the
offsets where they start and stop. An edit hands the display the bytes of the characters that it replaces,
or does not answer. After any actions the checked calls answer, and do what the calls do, as long as no
text on the way is too long to have its positions counted.
-/

namespace CodeEditor

open Machine

/-! ## History -/

def Edit.continuedBy? (e next : Edit) : Option Bool :=
  if e.intent == .insert && next.intent == .insert && next.time - e.time ≤ Edit.joinWindow &&
      e.deleted.isEmpty && next.deleted.isEmpty then
    (add? e.start e.inserted.length).map fun stop => next.start == stop
  else some false

theorem Edit.continuedBy?_eq {e : Edit} (fits : e.start + e.inserted.length < 2 ^ 64) (next : Edit) :
    e.continuedBy? next = some (e.continuedBy next) := by
  unfold continuedBy? continuedBy
  split
  · next hclose => rw [add?_eq fits, Option.map_some, hclose, Bool.true_and]
  · next hfar => rw [Bool.eq_false_iff.mpr hfar, Bool.false_and]

namespace History

def push? (h : History) (e : Edit) : Option History :=
  match h.done with
  | last :: rest => do
    let joins ← if h.joining then last.continuedBy? e else some false
    if joins then
      let joined := last.join e
      some { h with done := joined :: rest, bytes := h.bytes - last.bytes + joined.bytes }
    else some { h with done := e :: h.done, bytes := h.bytes + e.bytes }
  | [] => some { h with done := [e], bytes := h.bytes + e.bytes }

def record? (h : History) (e : Edit) : Option History :=
  if e.isEmpty then some h else ({ h with undone := [] }.push? e).map trim

def wayBack? (h : History) : Option (Option (History × Replacement)) :=
  match h.done with
  | [] => some none
  | e :: es => do
    let stop ← add? e.start e.inserted.length
    some (some ({ h with done := es, undone := e :: h.undone, bytes := h.bytes - e.bytes },
      ⟨⟨e.start, stop⟩, e.deleted, e.cursorBefore⟩))

def wayForward? (h : History) : Option (Option (History × Replacement)) :=
  match h.undone with
  | [] => some none
  | e :: es => do
    let stop ← add? e.start e.deleted.length
    some (some ({ h with done := e :: h.done, undone := es, bytes := h.bytes + e.bytes }.trim,
      ⟨⟨e.start, stop⟩, e.inserted, e.cursorAfter⟩))

variable {h : History}

theorem push?_eq
    (fits : ∀ last rest, h.done = last :: rest → last.start + last.inserted.length < 2 ^ 64)
    (e : Edit) : h.push? e = some (h.push e) := by
  unfold push? push
  cases hdone : h.done with
  | nil => rfl
  | cons last rest =>
    cases hjoining : h.joining with
    | false => rfl
    | true =>
      simp only [if_true, Edit.continuedBy?_eq (fits last rest hdone), Option.bind_eq_bind,
        Option.bind_some, Bool.true_and]
      split <;> rfl

theorem record?_eq
    (fits : ∀ last rest, h.done = last :: rest → last.start + last.inserted.length < 2 ^ 64)
    (e : Edit) : h.record? e = some (h.record e) := by
  unfold record? record
  split
  · rfl
  · rw [push?_eq (h := { h with undone := [] }) fits]
    rfl

theorem wayBack?_eq
    (fits : ∀ e es, h.done = e :: es → e.start + e.inserted.length < 2 ^ 64) :
    h.wayBack? = some h.undo? := by
  unfold wayBack? undo?
  cases hdone : h.done with
  | nil => rfl
  | cons e es =>
    simp only [add?_eq (fits e es hdone), Option.bind_eq_bind, Option.bind_some, Edit.backward]

theorem wayForward?_eq
    (fits : ∀ e es, h.undone = e :: es → e.start + e.deleted.length < 2 ^ 64) :
    h.wayForward? = some h.redo? := by
  unfold wayForward? redo?
  cases hundone : h.undone with
  | nil => rfl
  | cons e es =>
    simp only [add?_eq (fits e es hundone), Option.bind_eq_bind, Option.bind_some, Edit.forward]

end History

/-! ## Replacements in the display -/

/-- A replacement of bytes, which have to be those of the characters, and not to cut one. -/
def PlacedText.replaceBytes? (t : PlacedText) (characters bytes : Span) (text : List Char)
    (attributes : Attributes) : Option PlacedText :=
  if bytes = Text.bytesOf t.text characters ∧ Text.snap t.text bytes = bytes then
    t.replace? isWord bytes text attributes
  else none

/-! ## Calls by checked accesses -/

/-- A session, and its display by the offsets of the runs. -/
structure Stored where
  session : Session
  display : PlacedText

def Session.stored (s : Session) : Stored := ⟨s, s.display.placed⟩

namespace Stored

/-- A session with an empty text, which has no runs. -/
def start (library : Library) (disk : Disk) (options : EditorOptions) : Stored :=
  let session := Session.start library disk options
  ⟨session, .plain [] session.base⟩

/-- Something that leaves the display as it is. -/
def aside (s : Stored) (session : Session) : Stored := { s with session := session }

def rehighlight? (s : Stored) : Option Stored := do
  let compiled := s.session.highlighter.patternsFor s.session.grammar
  let display ← s.display.restyle?
    (Highlight.strokes compiled s.display.text s.session.colors s.session.base)
  some ⟨s.session.rehighlight, display⟩

def setText? (s : Stored) (text : List Char) : Option Stored := do
  let session :=
    { s.session with
      phase := .mutating
      buffer := ⟨text⟩
      display := s.session.display.setText text s.session.base
      history := s.session.history.clear
      selection := .place 0 text.length
      firstVisible := 0 }
  let s ← rehighlight? ⟨session, s.display.setText text s.session.base⟩
  some (s.aside s.session.announceText.announceSelection)

/-- An edit. The end of the inserted text is counted also when the cursor goes elsewhere. -/
def edit? (s : Stored) (span : Span) (text : List Char) (intent? : Option Intent)
    (cursor? : Option Nat) : Option (Stored × Bool) :=
  let session := s.session
  let span := span.clamp session.buffer.length
  if span.isEmpty && text.isEmpty then some (s, false)
  else do
    let deleted ← session.buffer.slice? span
    let start ← session.buffer.byteOffset? span.start
    let stop ← session.buffer.byteOffset? span.stop
    let buffer ← session.buffer.replace? span text
    let display ← s.display.replaceBytes? span ⟨start, stop⟩ text session.base
    let behind ← add? span.start text.length
    let selection := Selection.place (cursor?.getD behind) buffer.length
    let history ←
      match intent? with
      | none => some session.history
      | some intent =>
        session.history.record?
          { start := span.start
            deleted := deleted
            inserted := text
            intent := intent
            cursorBefore := session.cursor
            cursorAfter := selection.cursor
            time := session.clock }
    let session :=
      { session with
        phase := .mutating
        buffer := buffer
        display := session.display.replace ⟨start, stop⟩ text session.base
        selection := selection
        history := history }
    let s ← rehighlight? ⟨session, display⟩
    some (s.aside s.session.announceText.announceSelection, true)

def substitute? (s : Stored) : Option Stored :=
  if s.session.smartSubstitution then do
    let cursor := s.session.cursor
    let preceding ← s.session.buffer.slice? ⟨cursor - Substitution.reach, cursor⟩
    match Substitution.find? preceding with
    | none => some s
    | some found => do
      let start ← sub? cursor found.size
      let behind ← add? start 1
      let (s, _) ← s.edit? ⟨start, cursor⟩ [found.glyph] (some .substitution) (some behind)
      some s
  else some s

def editSmartly? (s : Stored) (span : Span) (text : List Char) (intent : Intent) :
    Option (Stored × Bool) := do
  match ← s.edit? span text (some intent) none with
  | (s, true) => some (← s.substitute?, true)
  | (s, false) => some (s, false)

def insertNewline? (s : Stored) : Option (Stored × Bool) := do
  match ← s.edit? s.session.selection.editSpan ['\n'] (some .newline) none with
  | (s, false) => some (s, false)
  | (s, true) =>
    let (line, _) ← s.session.buffer.lineColumn? s.session.cursor
    let previous ← s.session.buffer.lineText? (line - 1)
    let indent := Indent.after previous
    if indent.isEmpty then some (s, true)
    else
      let (s, _) ← s.edit? (.point s.session.cursor) indent (some .autoIndent) none
      some (s, true)

def backspace? (s : Stored) : Option (Stored × Bool) :=
  match s.session.selection.span? with
  | some span => s.edit? span [] (some .deleteBackward) none
  | none =>
    if s.session.cursor = 0 then some (s, false)
    else do
      let start ← sub? s.session.cursor 1
      s.edit? ⟨start, s.session.cursor⟩ [] (some .deleteBackward) none

def deleteForward? (s : Stored) : Option (Stored × Bool) :=
  match s.session.selection.span? with
  | some span => s.edit? span [] (some .deleteForward) none
  | none =>
    if s.session.buffer.length ≤ s.session.cursor then some (s, false)
    else do
      let stop ← add? s.session.cursor 1
      s.edit? ⟨s.session.cursor, stop⟩ [] (some .deleteForward) none

def applyStep? (s : Stored) : Option (History × Replacement) → Option (Stored × Bool)
  | none => some (s, false)
  | some (history, r) =>
    (s.aside { s.session with history := history }).edit? r.span r.text none (some r.cursor)

def undo? (s : Stored) : Option (Stored × Bool) := s.session.history.wayBack?.bind s.applyStep?

def redo? (s : Stored) : Option (Stored × Bool) := s.session.history.wayForward?.bind s.applyStep?

def selectTheme? (s : Stored) (name : String) : Option (Stored × Bool) :=
  match s.session.library.load s.session.disk .theme name with
  | (_, _, none) => some (s, false)
  | (library, disk, some theme) => do
    let session :=
      { s.session with
        library := library
        disk := disk
        theme := theme
        base := s.session.options.base theme
        colors := .ofGrammar theme s.session.grammar }
    let s ← (s.aside session).rehighlight?
    some (s.aside (s.session.announce (.themeChanged theme.name)), true)

def selectGrammar? (s : Stored) (name : String) : Option (Stored × Bool) :=
  if s.session.library.isCurrent .grammar name then some (s, false)
  else
    match s.session.library.load s.session.disk .grammar name with
    | (_, _, none) => some (s, false)
    | (library, disk, some grammar) => do
      let session :=
        { s.session with
          library := library
          disk := disk
          grammar := grammar
          colors := .ofGrammar s.session.theme grammar }
      let s ← (s.aside session).rehighlight?
      some (s.aside (s.session.announce (.grammarChanged grammar.name)), true)

end Stored

/-! ## Targets of the cursor -/

namespace Session

def rightTarget? (s : Session) (select : Bool) : Option Nat :=
  match s.selection.span?, select with
  | some span, false => some span.stop
  | _, _ => add? s.cursor 1

/-- The position of a column in the line of the cursor. -/
def lineTarget? (s : Session) (column : Nat) : Option Nat := do
  let (line, _) ← s.buffer.lineColumn? s.cursor
  s.buffer.positionOf? line column

end Session

namespace Stored

/-- The end of a line is the position of a column that no line has. The commands that are not named
give the text no position and leave the display alone. -/
def execute? (s : Stored) : Command → Option (Stored × Bool)
  | .insertText text => s.editSmartly? s.session.selection.editSpan text .insert
  | .insertNewline => s.insertNewline?
  | .insertTab =>
    s.edit? s.session.selection.editSpan
      (List.replicate (max s.session.options.tabWidth.toNat 1) ' ') (some .insert) none
  | .backspace => s.backspace?
  | .deleteForward => s.deleteForward?
  | .moveRight select => do
    some (s.aside (s.session.moveCursor (← s.session.rightTarget? select) select), true)
  | .moveLineStart select => do
    some (s.aside (s.session.moveCursor (← s.session.lineTarget? 0) select), true)
  | .moveLineEnd select => do
    some (s.aside (s.session.moveCursor (← s.session.lineTarget? (2 ^ 64 - 1)) select), true)
  | .undo => s.undo?
  | .redo => s.redo?
  | .selectTheme name => s.selectTheme? name
  | .selectGrammar name => s.selectGrammar? name
  | command =>
    let (session, changed) := s.session.execute command
    some (s.aside session, changed)

/-- Of the calls that are no commands, some open another text or paint the text anew; the others leave the
display alone. -/
def perform? (s : Stored) : Session.Action → Option Stored
  | .setText text => s.setText? text
  | .openFile file =>
    match s.session.disk.readText file with
    | .ok text => s.setText? text
    | .error _ => some s
  | .replaceRange span text => (s.editSmartly? span text .other).map (·.1)
  | .execute command => (s.execute? command).map (·.1)
  | .handle event =>
    match s.session.bindings.resolve event with
    | none => some s
    | some command => (s.execute? command).map (·.1)
  | .aside (.selectTheme name) => (s.selectTheme? name).map (·.1)
  | .aside (.selectGrammar name) => (s.selectGrammar? name).map (·.1)
  | .aside call => some (s.aside (s.session.stepAside call))

def run? (s : Stored) (actions : List Session.Action) : Option Stored := actions.foldlM perform? s

end Stored

namespace Session

/-! ## Short texts -/

/-- The text is short before each of the parts, and after the last. -/
def ShortDuring (s : Session) : List Part → Prop
  | [] => Text.Short s.buffer.text
  | part :: parts => Text.Short s.buffer.text ∧ (s.step part).ShortDuring parts

variable {options : EditorOptions} {s : Session}

theorem ShortDuring.before {parts : List Part} (h : s.ShortDuring parts) :
    Text.Short s.buffer.text := by
  cases parts with
  | nil => exact h
  | cons part parts => exact h.1

instance (text : List Char) : Decidable (Text.Short text) :=
  inferInstanceAs (Decidable (_ < _))

instance decidableShortDuring (s : Session) : (parts : List Part) → Decidable (s.ShortDuring parts)
  | [] => inferInstanceAs (Decidable (Text.Short _))
  | part :: parts =>
    have := decidableShortDuring (s.step part) parts
    inferInstanceAs (Decidable (_ ∧ _))

/-! ## Painting -/

theorem rehighlight?_stored (sound : s.display.Sound) :
    s.stored.rehighlight? = some s.rehighlight.stored := by
  have hpaint := StyledText.restyle?_placed sound
    (Highlight.strokes (s.highlighter.patternsFor s.grammar) s.display.text s.colors s.base)
  unfold Stored.rehighlight?
  simp only [stored, StyledText.placed] at hpaint ⊢
  simp only [hpaint, Option.bind_eq_bind, Option.bind_some]
  rfl

theorem bind_rehighlight? {α : Type} (sound : s.display.Sound) (rest : Stored → Option α) :
    s.stored.rehighlight?.bind rest = rest s.rehighlight.stored :=
  congrArg (Option.bind · rest) (rehighlight?_stored sound)

theorem setText?_stored (s : Session) (text : List Char) :
    s.stored.setText? text = some (s.setText text).stored := by
  have hdisplay : s.stored.display.setText text s.stored.session.base =
      (s.display.setText text s.base).placed := (s.display.placed_setText text s.base).symm
  unfold Stored.setText?
  simp only [hdisplay, Option.bind_eq_bind]
  exact bind_rehighlight? (StyledText.sound_setText s.display text s.base) _

theorem selectTheme?_stored (sound : s.display.Sound) (name : String) :
    s.stored.selectTheme? name = some ((s.selectTheme name).1.stored, (s.selectTheme name).2) := by
  have hload : s.stored.session.library.load s.stored.session.disk .theme name =
      s.library.load s.disk .theme name := rfl
  unfold Stored.selectTheme? selectTheme
  rw [hload]
  rcases s.library.load s.disk .theme name with ⟨library, disk, _ | theme⟩
  · rfl
  · simp only [Option.bind_eq_bind]
    refine bind_rehighlight? ?_ _
    exact sound

theorem selectGrammar?_stored (sound : s.display.Sound) (name : String) :
    s.stored.selectGrammar? name =
      some ((s.selectGrammar name).1.stored, (s.selectGrammar name).2) := by
  have hload : s.stored.session.library.load s.stored.session.disk .grammar name =
      s.library.load s.disk .grammar name := rfl
  have hcurrent : s.stored.session.library.isCurrent .grammar name =
      s.library.isCurrent .grammar name := rfl
  unfold Stored.selectGrammar? selectGrammar
  rw [hload, hcurrent]
  split
  · rfl
  · rcases s.library.load s.disk .grammar name with ⟨library, disk, _ | grammar⟩
    · rfl
    · simp only [Option.bind_eq_bind]
      refine bind_rehighlight? ?_ _
      exact sound

/-! ## Edits -/

@[simp] theorem stored_session (s : Session) : s.stored.session = s := rfl

@[simp] theorem stored_display (s : Session) : s.stored.display = s.display.placed := rfl

theorem byteLength_inserted_le (b : Buffer) (s : Span) (text : List Char) :
    Text.byteLength text ≤ Text.byteLength (b.replace s text).text := by
  simp only [Buffer.replace, Text.byteLength_append]
  omega

theorem replaceBytes?_stored (same : s.buffer.text = s.display.text) (sound : s.display.Sound)
    {span : Span} (ordered : span.start ≤ span.stop) {text : List Char}
    (before : Text.Short s.buffer.text) (inserted : Text.Short text) :
    s.display.placed.replaceBytes? span
        ⟨s.buffer.byteOffset span.start, s.buffer.byteOffset span.stop⟩ text s.base =
      some (s.display.replace ⟨s.buffer.byteOffset span.start, s.buffer.byteOffset span.stop⟩ text
        s.base).placed := by
  have hbytes : (⟨s.buffer.byteOffset span.start, s.buffer.byteOffset span.stop⟩ : Span) =
      Text.bytesOf s.display.placed.text span := by
    simp only [Buffer.byteOffset, Text.bytesOf, same, StyledText.placed]
  have hfits : ∀ n ≤ s.display.byteLength + Text.byteLength text, isWord n := by
    rw [same] at before
    unfold Text.Short at before inserted
    intro n hn
    unfold StyledText.byteLength at hn
    exact decide_eq_true (by omega)
  rw [hbytes, PlacedText.replaceBytes?, if_pos ⟨rfl, Text.snap_bytesOf _ ordered⟩]
  exact StyledText.replace?_placed sound _ text s.base hfits

theorem edit?_stored (same : s.buffer.text = s.display.text) (sound : s.display.Sound) {span : Span}
    {text : List Char} {intent? : Option Intent} {cursor? : Option Nat}
    (fits : ∀ intent, intent? = some intent → ∀ last rest, s.history.done = last :: rest →
      last.start + last.inserted.length < 2 ^ 64)
    (before : Text.Short s.buffer.text)
    (after : Text.Short (s.edit span text intent? cursor?).1.buffer.text) :
    s.stored.edit? span text intent? cursor? =
      some ((s.edit span text intent? cursor?).1.stored, (s.edit span text intent? cursor?).2) := by
  cases hchange : ((span.clamp s.buffer.length).isEmpty && text.isEmpty) with
  | true =>
    rw [edit_unchanged hchange, Stored.edit?]
    simp only [stored_session, hchange, if_true]
  | false =>
    have ordered := Span.clamp_ordered span s.buffer.length
    have hstart := Span.clamp_start_le span s.buffer.length
    obtain ⟨-, hbuffer, -, -⟩ := edit_changed intent? cursor? hchange
    rw [hbuffer] at after
    have inserted : Text.Short text := lt_of_le_of_lt (byteLength_inserted_le _ _ _) after
    have hsum : add? (span.clamp s.buffer.length).start text.length =
        some ((span.clamp s.buffer.length).start + text.length) := by
      have hbefore : s.buffer.length < 2 ^ 63 := before.length_lt
      have htext := inserted.length_lt
      exact add?_eq (by omega)
    have hdisplay := replaceBytes?_stored same sound ordered before inserted
    unfold Stored.edit? edit
    simp only [stored_session, stored_display, hchange, Bool.false_eq_true, if_false,
      Buffer.slice?_eq, Buffer.byteOffset?_eq, Buffer.replace?_eq, hdisplay, hsum,
      Option.bind_eq_bind, Option.bind_some]
    cases intent? with
    | none =>
      exact bind_rehighlight? (StyledText.sound_replace sound _ text s.base) _
    | some intent =>
      simp only [History.record?_eq (fits intent rfl), Option.bind_some]
      exact bind_rehighlight? (StyledText.sound_replace sound _ text s.base) _

theorem Settled.cursor_lt (h : s.Settled options) (short : Text.Short s.buffer.text) :
    s.cursor < 2 ^ 63 :=
  lt_of_le_of_lt h.within.cursor short.length_lt

theorem Settled.done_fits (h : s.Settled options) (before : Text.Short s.buffer.text) (e : Edit)
    (es : List Edit) (hdone : s.history.done = e :: es) :
    e.start + e.inserted.length < 2 ^ 64 := by
  obtain ⟨r, hlinked⟩ := h.linked
  have hinside := hlinked.done_inside hdone
  have hlength : s.buffer.length < 2 ^ 63 := before.length_lt
  omega

theorem Settled.undone_fits (h : s.Settled options) (before : Text.Short s.buffer.text) (e : Edit)
    (es : List Edit) (hundone : s.history.undone = e :: es) :
    e.start + e.deleted.length < 2 ^ 64 := by
  obtain ⟨r, hlinked⟩ := h.linked
  have hinside := hlinked.undone_inside hundone
  have hlength : s.buffer.length < 2 ^ 63 := before.length_lt
  omega

theorem Settled.edit?_stored (h : s.Settled options) {span : Span} {text : List Char}
    {intent : Intent} {cursor? : Option Nat} {parts : List Part}
    (short : s.ShortDuring (.edit span text intent cursor? :: parts)) :
    s.stored.edit? span text (some intent) cursor? =
      some ((s.edit span text (some intent) cursor?).1.stored,
        (s.edit span text (some intent) cursor?).2) :=
  Session.edit?_stored h.inStep.text h.inStep.sound (fun _ _ => h.done_fits short.1) short.1
    short.2.before

theorem applyStep?_stored (h : s.Settled options) (step? : Option (History × Replacement))
    (before : Text.Short s.buffer.text) (after : Text.Short (s.applyStep step?).1.buffer.text) :
    s.stored.applyStep? step? = some ((s.applyStep step?).1.stored, (s.applyStep step?).2) := by
  rcases step? with _ | ⟨history, r⟩
  · rfl
  · rw [applyStep] at after ⊢
    rw [Stored.applyStep?]
    exact Session.edit?_stored (s := { s with history := history }) h.inStep.text h.inStep.sound
      (by rintro _ ⟨⟩) before after

theorem undo?_stored (h : s.Settled options) (short : s.ShortDuring [.undo]) :
    s.stored.undo? = some (s.undo.1.stored, s.undo.2) := by
  rw [Stored.undo?, stored_session, History.wayBack?_eq (h.done_fits short.1)]
  exact applyStep?_stored h s.history.undo? short.1 short.2

theorem redo?_stored (h : s.Settled options) (short : s.ShortDuring [.redo]) :
    s.stored.redo? = some (s.redo.1.stored, s.redo.2) := by
  rw [Stored.redo?, stored_session, History.wayForward?_eq (h.undone_fits short.1)]
  exact applyStep?_stored h s.history.redo? short.1 short.2

/-! ## Substitution -/

theorem size_le_cursor {b : Buffer} {cursor : Nat} {found : Substitution}
    (hfound : Substitution.find? (b.slice ⟨cursor - Substitution.reach, cursor⟩) = some found) :
    found.size ≤ cursor := by
  have hsuffix := List.find?_some hfound
  rw [List.isSuffixOf_iff_suffix] at hsuffix
  have hlength := hsuffix.length_le
  simp only [Buffer.slice, List.length_drop, List.length_take] at hlength
  unfold Substitution.size
  omega

theorem substitute?_stored (h : s.Settled options) (short : s.ShortDuring s.substituteParts) :
    s.stored.substitute? = some s.substitute.stored := by
  unfold substituteParts at short
  unfold Stored.substitute? substitute
  rw [stored_session]
  split
  · next hsmart =>
    rw [if_pos hsmart] at short
    simp only [Buffer.slice?_eq, Option.bind_eq_bind, Option.bind_some]
    cases hfound : Substitution.find? (s.buffer.slice ⟨s.cursor - Substitution.reach, s.cursor⟩) with
    | none => rfl
    | some found =>
      simp only [hfound] at short
      have hsize := size_le_cursor hfound
      have hcursor := h.cursor_lt short.1
      have hbehind : add? (s.cursor - found.size) 1 = some (s.cursor - found.size + 1) :=
        add?_eq (by omega)
      simp only [sub?_eq hsize, hbehind, h.edit?_stored short, Option.bind_some]
  · rfl

theorem editSmartly?_stored (h : s.Settled options) {span : Span} {text : List Char}
    {intent : Intent} (short : s.ShortDuring (s.smartParts span text intent)) :
    s.stored.editSmartly? span text intent =
      some ((s.editSmartly span text intent).1.stored, (s.editSmartly span text intent).2) := by
  have hsettled := settled_step h (.edit span text intent none)
  have hedit := h.edit?_stored short
  have hrest := short.2
  unfold Stored.editSmartly? editSmartly
  rw [hedit]
  rw [step] at hsettled hrest
  rcases hresult : s.edit span text (some intent) none with ⟨edited, changed⟩
  rw [hresult] at hsettled hrest
  cases changed with
  | false => rfl
  | true =>
    have hsubstitute := substitute?_stored hsettled hrest
    simp only [hsubstitute, Option.bind_eq_bind, Option.bind_some]

/-! ## Commands -/

theorem aside_stored {next : Session} (kept : next.display = s.display) :
    s.stored.aside next = next.stored := by
  rw [Session.stored, Session.stored, ← kept]
  rfl

theorem display_scrollTo (s : Session) (position : Nat) :
    (s.scrollTo position).1.display = s.display := by
  unfold scrollTo
  simp only
  split <;> rfl

theorem display_gutterRows (s : Session) (rows : Nat) (wrap : Option Nat) :
    (s.stepAside (.gutterRows rows wrap)).display = s.display := by
  rw [stepAside, gutterRows?]
  cases s.gutter.layout? s.buffer ⟨s.firstVisible, rows, wrap⟩ <;> rfl

theorem display_saveFile (s : Session) (file : Path) :
    (s.stepAside (.saveFile file)).display = s.display := by
  rw [stepAside, saveFile]
  cases s.disk.write file (Text.Utf8.encode s.text) <;> rfl

theorem insertNewline?_stored (h : s.Settled options) (short : s.ShortDuring s.newlineParts) :
    s.stored.insertNewline? = some (s.insertNewline.1.stored, s.insertNewline.2) := by
  have hsettled := settled_step h (.edit s.selection.editSpan ['\n'] .newline none)
  have hedit := h.edit?_stored short
  have hrest := short.2
  unfold Stored.insertNewline? insertNewline
  rw [stored_session, hedit]
  rw [step] at hsettled hrest
  rcases hresult : s.edit s.selection.editSpan ['\n'] (some .newline) none with ⟨edited, changed⟩
  rw [hresult] at hsettled hrest
  cases changed with
  | false => rfl
  | true =>
    simp only [stored_session, Buffer.lineColumn?_eq, Buffer.lineText?_eq, Option.bind_eq_bind,
      Option.bind_some] at hrest ⊢
    by_cases hindent : (Indent.after (edited.buffer.lineText
        ((edited.buffer.lineColumn edited.cursor).1 - 1))).isEmpty = true
    · simp only [lineColumn, hindent, if_true]
    · simp only [lineColumn, hindent, if_false, Bool.false_eq_true] at hrest ⊢
      rw [hsettled.edit?_stored hrest]
      rfl

theorem backspace?_stored (h : s.Settled options) (short : s.ShortDuring s.backspaceParts) :
    s.stored.backspace? = some (s.backspace.1.stored, s.backspace.2) := by
  unfold backspaceParts at short
  unfold Stored.backspace? backspace
  rw [stored_session]
  cases hspan : s.selection.span? with
  | some span =>
    rw [hspan] at short
    exact h.edit?_stored short
  | none =>
    simp only [hspan] at short ⊢
    split
    · rfl
    · next hcursor =>
      rw [if_neg hcursor] at short
      rw [sub?_eq (Nat.pos_of_ne_zero hcursor)]
      exact h.edit?_stored short

theorem deleteForward?_stored (h : s.Settled options) (short : s.ShortDuring s.deleteForwardParts) :
    s.stored.deleteForward? = some (s.deleteForward.1.stored, s.deleteForward.2) := by
  have hplace := h.cursor_lt short.before
  unfold deleteForwardParts at short
  unfold Stored.deleteForward? deleteForward
  rw [stored_session]
  cases hspan : s.selection.span? with
  | some span =>
    rw [hspan] at short
    exact h.edit?_stored short
  | none =>
    simp only [hspan] at short ⊢
    split
    · rfl
    · next hcursor =>
      rw [if_neg hcursor] at short
      rw [add?_eq (by omega)]
      exact h.edit?_stored short

theorem rightTarget?_eq (h : s.Settled options) (short : Text.Short s.buffer.text) (select : Bool) :
    s.rightTarget? select = some (s.rightTarget select) := by
  have hcursor := h.cursor_lt short
  have hsum : add? s.cursor 1 = some (s.cursor + 1) := add?_eq (by omega)
  unfold rightTarget? rightTarget
  cases s.selection.span? with
  | none => exact hsum
  | some span =>
    cases select with
    | false => rfl
    | true => exact hsum

theorem lineTarget?_eq (short : Text.Short s.buffer.text) (column : Nat) :
    s.lineTarget? column = some (s.buffer.positionOf s.lineColumn.1 column) := by
  simp only [lineTarget?, Buffer.lineColumn?_eq, Buffer.positionOf?_eq short, lineColumn,
    Option.bind_eq_bind, Option.bind_some]

theorem execute?_stored (h : s.Settled options) {command : Command}
    (short : s.ShortDuring (s.commandParts command)) :
    s.stored.execute? command = some ((s.execute command).1.stored, (s.execute command).2) := by
  have before := short.before
  cases command with
  | insertText text => exact editSmartly?_stored h short
  | insertNewline => exact insertNewline?_stored h short
  | insertTab => exact h.edit?_stored short
  | backspace => exact backspace?_stored h short
  | deleteForward => exact deleteForward?_stored h short
  | moveRight select => rw [Stored.execute?, stored_session, rightTarget?_eq h before]; rfl
  | moveLineStart select => rw [Stored.execute?, stored_session, lineTarget?_eq before]; rfl
  | moveLineEnd select =>
    have hshown := s.buffer.lineLength_le s.lineColumn.1
    have hlength : s.buffer.length < 2 ^ 63 := before.length_lt
    rw [Stored.execute?, stored_session, lineTarget?_eq before,
      Buffer.positionOf_lineLength _ _ (by omega)]
    rfl
  | undo => exact undo?_stored h short
  | redo => exact redo?_stored h short
  | selectTheme name => exact selectTheme?_stored h.inStep.sound name
  | selectGrammar name => exact selectGrammar?_stored h.inStep.sound name
  | scrollTo position =>
    exact congrArg (fun next => some (next, (s.scrollTo position).2))
      (aside_stored (display_scrollTo s position))
  | _ => rfl

theorem perform?_stored (h : s.Settled options) {action : Action}
    (short : s.ShortDuring (s.parts action)) :
    s.stored.perform? action = some (s.perform action).stored := by
  cases action with
  | setText text => exact setText?_stored s text
  | openFile file =>
    rw [Stored.perform?, perform, openFile, stored_session]
    cases s.disk.readText file with
    | ok text => exact setText?_stored s text
    | error cause => rfl
  | replaceRange span text =>
    rw [Stored.perform?, editSmartly?_stored h short]
    rfl
  | execute command =>
    rw [Stored.perform?, execute?_stored h short]
    rfl
  | handle event =>
    rw [parts] at short
    rw [Stored.perform?, perform, handle, stored_session]
    cases hcommand : s.bindings.resolve event with
    | none => rfl
    | some command =>
      rw [hcommand] at short
      simp only [execute?_stored h short, Option.map_some]
  | aside call =>
    cases call with
    | selectTheme name =>
      rw [Stored.perform?, selectTheme?_stored h.inStep.sound name]
      rfl
    | selectGrammar name =>
      rw [Stored.perform?, selectGrammar?_stored h.inStep.sound name]
      rfl
    | scrollTo position => exact congrArg some (aside_stored (display_scrollTo s position))
    | gutterRows rows wrap => exact congrArg some (aside_stored (display_gutterRows s rows wrap))
    | saveFile file => exact congrArg some (aside_stored (display_saveFile s file))
    | _ => rfl

/-! ## Runs -/

/-- The text is short before and after each part of the actions. -/
def ShortThroughout (s : Session) : List Action → Prop
  | [] => Text.Short s.buffer.text
  | action :: actions => s.ShortDuring (s.parts action) ∧ (s.perform action).ShortThroughout actions

instance decidableShortThroughout (s : Session) :
    (actions : List Action) → Decidable (s.ShortThroughout actions)
  | [] => inferInstanceAs (Decidable (Text.Short _))
  | action :: actions =>
    have := decidableShortThroughout (s.perform action) actions
    inferInstanceAs (Decidable (_ ∧ _))

theorem stored_start (library : Library) (disk : Disk) (options : EditorOptions) :
    (start library disk options).stored = Stored.start library disk options := by
  have hdisplay : (start library disk options).display =
      .plain [] (start library disk options).base :=
    (StyledText.sound_plain [] _).restyle_empty rfl _
  rw [stored, hdisplay]
  rfl

theorem Settled.perform (h : s.Settled options) (action : Action) :
    (s.perform action).Settled options := by
  have hsteps := settled_steps h (s.parts action)
  rwa [steps_parts] at hsteps

theorem run?_stored (h : s.Settled options) {actions : List Action}
    (short : s.ShortThroughout actions) : s.stored.run? actions = some (s.run actions).stored := by
  induction actions generalizing s with
  | nil => rfl
  | cons action actions ih =>
    rw [Stored.run?, List.foldlM_cons, perform?_stored h short.1]
    exact ih (h.perform action) short.2

/-- After any actions, whatever the next one is: the cursor and both ends of the selection stay in the
text, and as long as the texts are short every access is one to a position or a line that is there,
every replacement in the display is one of the bytes of the characters replaced in the buffer, no
difference is negative and no sum too large. -/
theorem calls_stay_inside (library : Library) (disk : Disk) (options : EditorOptions)
    (actions : List Action) (action : Action) :
    let s := (start library disk options).run actions
    let next := s.perform action
    next.selection.Within next.buffer.length ∧
      (∀ span, next.selection.span? = some span →
        span.start ≤ next.buffer.length ∧ span.stop ≤ next.buffer.length) ∧
      ((start library disk options).ShortThroughout actions →
        (Stored.start library disk options).run? actions = some s.stored) ∧
      (s.ShortDuring (s.parts action) → s.stored.perform? action = some next.stored) := by
  intro s next
  have hstart : (start library disk options).Settled options := settled_run library disk options []
  have h : s.Settled options := settled_run library disk options actions
  have hnext : next.Settled options := h.perform action
  refine ⟨hnext.within, fun span hspan => hnext.within.span? hspan, fun short => ?_,
    perform?_stored h⟩
  rw [← stored_start]
  exact run?_stored hstart short

theorem calls_stay_inside_newline :
    let s := (start default default .standard).run [.execute (.insertText ['≠', ' ', 'd', 'o'])]
    s.ShortDuring (s.parts (.execute .insertNewline)) ∧
      s.stored.perform? (.execute .insertNewline) =
        some (s.perform (.execute .insertNewline)).stored := by
  intro s
  have short : s.ShortDuring (s.parts (.execute .insertNewline)) := by decide
  obtain ⟨-, -, -, hcalls⟩ := calls_stay_inside default default .standard
    [.execute (.insertText ['≠', ' ', 'd', 'o'])] (.execute .insertNewline)
  exact ⟨short, hcalls short⟩

end Session

end CodeEditor
