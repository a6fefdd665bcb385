import CodeEditor.Proofs.EventBus
import CodeEditor.Proofs.Session.InStep

/-! # What a session announces

What each part of an action tells the listeners, and what it does to all that the events are about. The
events of an action are those of its parts, in their order.
-/

namespace CodeEditor

/-! ## What events are about -/

/-- What is shown of a session, and how often the display has changed. -/
structure Scene where
  buffer : Buffer
  revision : UInt64
  report : Highlight.Report
  selection : Selection
  theme : Theme
  grammar : Grammar
  firstVisible : Nat

namespace Scene

def passEvent (v : Scene) : Event := .highlighted v.revision v.report

def selectionEvent (v : Scene) : Event := .selectionChanged v.selection.cursor v.selection.span?

/-- What is told after a change of the text. -/
def editEvents (v : Scene) : List Event :=
  [v.passEvent, .textChanged v.revision, v.selectionEvent]

/-- One thing that happens: the events that are told of it, and what is shown afterwards. -/
inductive Turns (v : Scene) : List Event → Scene → Prop where
  | quiet : Turns v [] v
  | changed (v' : Scene) (grows : v'.revision = v.revision + 1 ∨ v'.revision = v.revision + 1 + 1)
      (theme : v'.theme = v.theme) (grammar : v'.grammar = v.grammar)
      (view : v'.firstVisible = v.firstVisible ∨ v'.firstVisible = 0) : Turns v v'.editEvents v'
  | selected (selection : Selection) :
      Turns v [.selectionChanged selection.cursor selection.span?] { v with selection := selection }
  | scrolled (position : Nat) (inside : position ≤ v.buffer.length)
      (moves : position ≠ v.firstVisible) : Turns v [.scrollChanged position] { v with firstVisible := position }
  | repainted (revision : UInt64) (report : Highlight.Report) (theme : Theme) (grammar : Grammar)
      (e : Event) (grows : revision = v.revision ∨ revision = v.revision + 1)
      (named : e = .themeChanged theme.name ∧ grammar = v.grammar ∨
        e = .grammarChanged grammar.name ∧ theme = v.theme) :
      Turns v [.highlighted revision report, e]
        { v with revision := revision, report := report, theme := theme, grammar := grammar }

end Scene

def Event.textRevision? : Event → Option UInt64
  | .textChanged revision => some revision
  | _ => none

theorem Scene.Turns.buffer {v v' : Scene} {events : List Event} (h : v.Turns events v')
    (silent : events.filterMap Event.textRevision? = []) : v'.buffer = v.buffer := by
  cases h with
  | changed v' grows theme grammar view => cases silent
  | _ => rfl

namespace Session

def scene (s : Session) : Scene :=
  ⟨s.buffer, s.revision, s.report, s.selection, s.theme, s.grammar, s.firstVisible⟩

/-! ## The events of a part -/

def changesText (s : Session) : Part → Bool
  | .edit span text intent cursor? => (s.edit span text (some intent) cursor?).2
  | .undo => s.undo.2
  | .redo => s.redo.2
  | .setText _ => true
  | .aside _ => false

def publishedAside (s : Session) (call : Aside) : List Event :=
  let next := (s.stepAside call).scene
  match call with
  | .setCursor _ => [next.selectionEvent]
  | .moveCursor _ _ => [next.selectionEvent]
  | .select _ => [next.selectionEvent]
  | .scrollTo position =>
    if (s.scrollTo position).2 then [.scrollChanged next.firstVisible] else []
  | .selectTheme name =>
    if (s.selectTheme name).2 then [next.passEvent, .themeChanged next.theme.name] else []
  | .selectGrammar name =>
    if (s.selectGrammar name).2 then [next.passEvent, .grammarChanged next.grammar.name] else []
  | _ => []

/-- What a part tells: of a change of the text always the same three events, and nothing of an edit that
has nothing to do. -/
def published (s : Session) : Part → List Event
  | .aside call => s.publishedAside call
  | part => if s.changesText part then (s.step part).scene.editEvents else []

/-- What some parts tell, one after the other. -/
def publishedIn (s : Session) : List Part → List Event
  | [] => []
  | part :: parts => s.published part ++ (s.step part).publishedIn parts

/-! ## What a part does -/

/-- The events are told of what has happened, and to the gutter as well. -/
structure Does (s : Session) (events : List Event) (s' : Session) : Prop where
  turns : s.scene.Turns events s'.scene
  bus : s'.bus = s.bus.publishAll events
  gutter : s'.gutter = events.foldl Gutter.observe s.gutter

variable {options : EditorOptions} {s : Session}

theorem does_nothing {s' : Session} (scene : s'.scene = s.scene) (bus : s'.bus = s.bus)
    (gutter : s'.gutter = s.gutter) : s.Does [] s' := by
  refine ⟨?_, bus, gutter⟩
  rw [scene]
  exact .quiet

theorem revision_rehighlight (s : Session) :
    s.rehighlight.revision = s.revision ∨ s.rehighlight.revision = s.revision + 1 := by
  have hpass : ∃ changes, s.rehighlight.display = s.display.restyle changes := ⟨_, rfl⟩
  obtain ⟨changes, hdisplay⟩ := hpass
  unfold revision
  rw [hdisplay, StyledText.restyle_eq]
  split
  · left; rfl
  · right; rfl

/-- What follows every change of the text. -/
def settle (s : Session) : Session := s.rehighlight.announceText.announceSelection

theorem does_settle {m : Session} (grows : m.revision = s.revision + 1) (theme : m.theme = s.theme)
    (grammar : m.grammar = s.grammar)
    (view : m.firstVisible = s.firstVisible ∨ m.firstVisible = 0) (bus : m.bus = s.bus)
    (gutter : m.gutter = s.gutter) : s.Does m.settle.scene.editEvents m.settle := by
  refine ⟨.changed m.settle.scene ?_ theme grammar view, ?_, ?_⟩
  · show m.rehighlight.revision = s.revision + 1 ∨ m.rehighlight.revision = s.revision + 1 + 1
    rw [← grows]
    exact m.revision_rehighlight
  · rw [← bus]
    rfl
  · rw [← gutter]
    rfl

theorem does_edit (h : s.InStep options) (span : Span) (text : List Char) (intent? : Option Intent)
    (cursor? : Option Nat) :
    let r := s.edit span text intent? cursor?
    s.Does (if r.2 then r.1.scene.editEvents else []) r.1 := by
  have hclamp := Span.clamp_clamp span s.buffer.length
  unfold edit
  cases hnothing : (span.clamp s.buffer.length).isEmpty && text.isEmpty with
  | true =>
    simp only [hnothing, if_true]
    exact does_nothing rfl rfl rfl
  | false =>
    simp only [hnothing, Bool.false_eq_true, if_false, if_true]
    refine does_settle ?_ rfl rfl (.inl rfl) rfl rfl
    exact StyledText.revision_replace h.text hclamp hnothing s.base

theorem does_applyStep (h : s.InStep options) (step? : Option (History × Replacement)) :
    let r := s.applyStep step?
    s.Does (if r.2 then r.1.scene.editEvents else []) r.1 := by
  unfold applyStep
  cases step? with
  | none => exact does_nothing rfl rfl rfl
  | some step =>
    obtain ⟨history, r⟩ := step
    have hsame : ({ s with history := history } : Session).InStep options := h.congr rfl
    obtain ⟨turns, bus, gutter⟩ := does_edit hsame r.span r.text none (some r.cursor)
    exact ⟨turns, bus, gutter⟩

theorem does_setText (s : Session) (text : List Char) :
    s.Does (s.setText text).scene.editEvents (s.setText text) :=
  does_settle rfl rfl rfl (.inr rfl) rfl rfl

theorem does_scrollTo (s : Session) (position : Nat) :
    let r := s.scrollTo position
    s.Does (if r.2 then [.scrollChanged r.1.firstVisible] else []) r.1 := by
  unfold scrollTo
  simp only
  split
  · exact does_nothing rfl rfl rfl
  · next moves => exact ⟨.scrolled _ (min_le_right _ _) moves, rfl, rfl⟩

theorem does_repaint {m : Session} (e : Event)
    (scene : m.scene = { s.scene with theme := m.theme, grammar := m.grammar })
    (named : e = .themeChanged m.theme.name ∧ m.grammar = s.grammar ∨
      e = .grammarChanged m.grammar.name ∧ m.theme = s.theme)
    (bus : m.bus = s.bus) (gutter : m.gutter = s.gutter) :
    s.Does [(m.rehighlight.announce e).scene.passEvent, e] (m.rehighlight.announce e) := by
  have hrevision : m.revision = s.revision := congrArg Scene.revision scene
  have hgrows := m.revision_rehighlight
  rw [hrevision] at hgrows
  refine ⟨?_, ?_, ?_⟩
  · have hturns := Scene.Turns.repainted (v := s.scene) m.rehighlight.revision
      m.rehighlight.report m.theme m.grammar e hgrows named
    show s.scene.Turns _ { m.scene with
      revision := m.rehighlight.revision, report := m.rehighlight.report }
    rw [scene]
    exact hturns
  · rw [← bus]
    rfl
  · rw [← gutter]
    rfl

theorem does_selectTheme (s : Session) (name : String) :
    let r := s.selectTheme name
    s.Does (if r.2 then [r.1.scene.passEvent, .themeChanged r.1.scene.theme.name] else []) r.1 := by
  unfold selectTheme
  split
  · exact does_nothing rfl rfl rfl
  · exact does_repaint _ rfl (.inl ⟨rfl, rfl⟩) rfl rfl

theorem does_selectGrammar (s : Session) (name : String) :
    let r := s.selectGrammar name
    s.Does (if r.2 then [r.1.scene.passEvent, .grammarChanged r.1.scene.grammar.name] else []) r.1 := by
  unfold selectGrammar
  split
  · exact does_nothing rfl rfl rfl
  · split
    · exact does_nothing rfl rfl rfl
    · exact does_repaint _ rfl (.inr ⟨rfl, rfl⟩) rfl rfl

theorem does_saveFile (s : Session) (file : Path) :
    s.Does [] ((s.saveFile file).toOption.getD s) := by
  unfold saveFile
  cases s.disk.write file (Text.Utf8.encode s.text) <;> exact does_nothing rfl rfl rfl

theorem scene_gutterRows (s : Session) (rows : Nat) (wrap : Option Nat) :
    (s.stepAside (.gutterRows rows wrap)).scene = s.scene := by
  rw [stepAside, gutterRows?]
  cases s.gutter.layout? s.buffer ⟨s.firstVisible, rows, wrap⟩ <;> rfl

theorem bus_gutterRows (s : Session) (rows : Nat) (wrap : Option Nat) :
    (s.stepAside (.gutterRows rows wrap)).bus = s.bus := by
  rw [stepAside, gutterRows?]
  cases s.gutter.layout? s.buffer ⟨s.firstVisible, rows, wrap⟩ <;> rfl

/-- A part does what it tells, but for the calls that change who listens or draw the gutter. -/
theorem step_cases (h : s.InStep options) (part : Part) :
    s.Does (s.published part) (s.step part) ∨ part = .aside .subscribe ∨
      (∃ l, part = .aside (.unsubscribe l)) ∨
      ∃ rows wrap, part = .aside (.gutterRows rows wrap) := by
  cases part with
  | edit span text intent cursor? => exact .inl (does_edit h span text _ cursor?)
  | undo => exact .inl (does_applyStep h s.history.undo?)
  | redo => exact .inl (does_applyStep h s.history.redo?)
  | setText text => exact .inl (s.does_setText text)
  | aside call =>
    cases call with
    | setCursor position => exact .inl ⟨.selected _, rfl, rfl⟩
    | moveCursor position select => exact .inl ⟨.selected _, rfl, rfl⟩
    | select span => exact .inl ⟨.selected _, rfl, rfl⟩
    | scrollTo position => exact .inl (s.does_scrollTo position)
    | selectTheme name =>
      left
      rw [published, publishedAside, step, stepAside]
      exact s.does_selectTheme name
    | selectGrammar name =>
      left
      rw [published, publishedAside, step, stepAside]
      exact s.does_selectGrammar name
    | saveFile file => exact .inl (s.does_saveFile file)
    | subscribe => exact .inr (.inl rfl)
    | unsubscribe l => exact .inr (.inr (.inl ⟨l, rfl⟩))
    | gutterRows rows wrap => exact .inr (.inr (.inr ⟨rows, wrap, rfl⟩))
    | _ => exact .inl (does_nothing rfl rfl rfl)

theorem turns_step (h : s.InStep options) (part : Part) :
    s.scene.Turns (s.published part) (s.step part).scene := by
  rcases step_cases h part with does | rfl | ⟨l, rfl⟩ | ⟨rows, wrap, rfl⟩
  · exact does.turns
  · exact .quiet
  · exact .quiet
  · show s.scene.Turns [] (s.stepAside (.gutterRows rows wrap)).scene
    rw [scene_gutterRows]
    exact .quiet

theorem gutter_step (h : s.InStep options) {part : Part}
    (draws : ∀ rows wrap, part ≠ .aside (.gutterRows rows wrap)) :
    (s.step part).gutter = (s.published part).foldl Gutter.observe s.gutter := by
  rcases step_cases h part with does | rfl | ⟨l, rfl⟩ | ⟨rows, wrap, rfl⟩
  · exact does.gutter
  · rfl
  · rfl
  · exact absurd rfl (draws rows wrap)

theorem bus_step (h : s.InStep options) (part : Part) :
    (s.step part).bus = s.bus.publishAll (s.published part) ∨
      part = .aside .subscribe ∨ ∃ l, part = .aside (.unsubscribe l) := by
  rcases step_cases h part with does | hcomes | hgoes | ⟨rows, wrap, rfl⟩
  · exact .inl does.bus
  · exact .inr (.inl hcomes)
  · exact .inr (.inr hgoes)
  · exact .inl (s.bus_gutterRows rows wrap)

/-! ## What a part tells -/

/-- What is heard of a part: of a change of the text three events, the first two with one revision, and
nothing of an edit that has nothing to do. -/
structure Tells (s : Session) (part : Part) (events : List Event) : Prop where
  changed : s.changesText part = true →
    events =
      [.highlighted (s.step part).revision (s.step part).report,
        .textChanged (s.step part).revision,
        .selectionChanged (s.step part).cursor (s.step part).selection.span?]
  kept : s.changesText part = false →
    (s.step part).buffer = s.buffer ∧ ∀ revision, .textChanged revision ∉ events
  silent : s.changesText part = false → (∀ call, part ≠ .aside call) → events = []

theorem published_of_changesText {part : Part} (changes : s.changesText part = true) :
    s.published part = (s.step part).scene.editEvents := by
  cases part with
  | aside call => cases changes
  | setText text => rfl
  | _ => exact if_pos changes

theorem textRevisions_publishedAside (s : Session) (call : Aside) :
    (s.publishedAside call).filterMap Event.textRevision? = [] := by
  cases call with
  | scrollTo position => rw [publishedAside]; split <;> rfl
  | selectTheme name => rw [publishedAside]; split <;> rfl
  | selectGrammar name => rw [publishedAside]; split <;> rfl
  | _ => rfl

theorem published_of_not_changesText {part : Part} (same : s.changesText part = false)
    (text : ∀ call, part ≠ .aside call) : s.published part = [] := by
  cases part with
  | aside call => exact absurd rfl (text call)
  | _ => exact if_neg (Bool.eq_false_iff.mp same)

theorem textRevisions_published {part : Part} (same : s.changesText part = false) :
    (s.published part).filterMap Event.textRevision? = [] := by
  cases part with
  | aside call => exact s.textRevisions_publishedAside call
  | _ =>
    rw [published_of_not_changesText same (by intro call; nofun)]
    rfl

theorem tells_published (h : s.InStep options) (part : Part) : s.Tells part (s.published part) := by
  refine ⟨published_of_changesText, ?_, published_of_not_changesText⟩
  intro same
  have hsilent := textRevisions_published same
  refine ⟨(turns_step h part).buffer hsilent, ?_⟩
  intro revision hmem
  have hnone := List.filterMap_eq_nil_iff.mp hsilent _ hmem
  cases hnone

/-! ## What is heard -/

/-- This listener is one of those who are told. -/
structure Hears (s : Session) (listener : Subscription) : Prop where
  sound : s.bus.Sound
  listens : listener ∈ s.bus.listeners

variable {listener : Subscription}

theorem sound_step (h : s.InStep options) (sound : s.bus.Sound) (part : Part) :
    (s.step part).bus.Sound := by
  rcases bus_step h part with hbus | rfl | ⟨l, rfl⟩
  · rw [hbus]
    exact EventBus.sound_publishAll sound _
  · exact EventBus.sound_subscribe sound
  · exact EventBus.sound_unsubscribe sound l

theorem sound_run (library : Library) (disk : Disk) (options : EditorOptions)
    (actions : List Action) : ((start library disk options).run actions).bus.Sound := by
  have hstart : (start library disk options).bus.Sound :=
    EventBus.sound_publish EventBus.sound_new _
  have hrun := run_induction (P := fun s => s.InStep options ∧ s.bus.Sound)
    (fun _ part h => ⟨inStep_step h.1 part, sound_step h.1 h.2 part⟩)
    ⟨inStep_start library disk, hstart⟩ actions
  exact hrun.2

theorem hears_subscribe (sound : s.bus.Sound) : s.subscribe.1.Hears s.subscribe.2 :=
  ⟨EventBus.sound_subscribe sound, EventBus.mem_subscribe s.bus⟩

theorem hears_step (h : s.InStep options) (hears : s.Hears listener) {part : Part}
    (stays : part ≠ .aside (.unsubscribe listener)) :
    (s.step part).Hears listener ∧
      (s.step part).bus.heard listener = s.bus.heard listener ++ s.published part := by
  obtain ⟨sound, listens⟩ := hears
  rcases bus_step h part with hbus | rfl | ⟨l, rfl⟩
  · refine ⟨⟨sound_step h sound part, ?_⟩, ?_⟩
    · rw [hbus, EventBus.listeners_publishAll]
      exact listens
    · rw [hbus, EventBus.heard_publishAll sound listens]
  · refine ⟨⟨EventBus.sound_subscribe sound, ?_⟩, (List.append_nil _).symm⟩
    exact List.mem_append_left _ listens
  · refine ⟨⟨EventBus.sound_unsubscribe sound l, ?_⟩, (List.append_nil _).symm⟩
    refine EventBus.mem_unsubscribe listens ?_
    rintro rfl
    exact stays rfl

theorem hears_steps (h : s.InStep options) (hears : s.Hears listener) {parts : List Part}
    (stays : .aside (.unsubscribe listener) ∉ parts) :
    (s.steps parts).Hears listener ∧
      (s.steps parts).bus.heard listener = s.bus.heard listener ++ s.publishedIn parts := by
  induction parts generalizing s with
  | nil => exact ⟨hears, (List.append_nil _).symm⟩
  | cons part parts ih =>
    rw [List.mem_cons, not_or] at stays
    obtain ⟨hhears, hheard⟩ := hears_step h hears (Ne.symm stays.1)
    obtain ⟨hfinal, hrest⟩ := ih (inStep_step h part) hhears stays.2
    refine ⟨hfinal, ?_⟩
    rw [steps_cons, hrest, hheard, List.append_assoc]
    rfl

end Session

end CodeEditor
