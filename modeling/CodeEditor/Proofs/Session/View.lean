import CodeEditor.Proofs.Session.Announcements

/-! # The view

The rows beside the text are fresh only while the text and the view are those they were drawn for. What
moves the view is told, but for the opening of another text. A text that shrinks does not move it, and
so can end before it.
-/

namespace CodeEditor

def Event.scroll? : Event → Option Nat
  | .scrollChanged position => some position
  | _ => none

namespace Scene

variable {v v' : Scene} {events : List Event}

theorem Turns.fresh (h : v.Turns events v') {g : Gutter}
    (fresh : (events.foldl Gutter.observe g).stale = false) :
    g.stale = false ∧ v'.buffer = v.buffer ∧ v'.firstVisible = v.firstVisible := by
  cases h with
  | quiet => exact ⟨fresh, rfl, rfl⟩
  | changed v' grows theme grammar view => cases fresh
  | selected selection => exact ⟨fresh, rfl, rfl⟩
  | scrolled position inside moves => cases fresh
  | repainted revision report theme grammar e grows named =>
    rcases named with ⟨rfl, -⟩ | ⟨rfl, -⟩
    · cases fresh
    · exact ⟨fresh, rfl, rfl⟩

theorem Turns.outside (h : v.Turns events v') (outside : v'.buffer.length < v'.firstVisible) :
    v'.firstVisible = v.firstVisible := by
  cases h with
  | changed v' grows theme grammar view =>
    rcases view with hsame | htop
    · exact hsame
    · omega
  | scrolled position inside moves =>
    simp only at outside
    omega
  | _ => rfl

theorem Turns.scroll (h : v.Turns events v') :
    events.filterMap Event.scroll? = [v'.firstVisible] ∧ v'.firstVisible ≠ v.firstVisible ∨
      events.filterMap Event.scroll? = [] ∧
        (v'.firstVisible = v.firstVisible ∨ events.filterMap Event.textRevision? ≠ []) := by
  cases h with
  | quiet => exact .inr ⟨rfl, .inl rfl⟩
  | changed v' grows theme grammar view => exact .inr ⟨rfl, .inr (List.cons_ne_nil _ _)⟩
  | selected selection => exact .inr ⟨rfl, .inl rfl⟩
  | scrolled position inside moves => exact .inl ⟨rfl, moves⟩
  | repainted revision report theme grammar e grows named =>
    refine .inr ⟨?_, .inl rfl⟩
    rcases named with ⟨rfl, -⟩ | ⟨rfl, -⟩ <;> rfl

end Scene

namespace Session

variable {options : EditorOptions} {s : Session} {listener : Subscription}

/-! ## The rows beside the text -/

theorem gutterRows?_eq {drawn : Session} {rows : Nat} {wrap : Option Nat} {shown : List GutterRow}
    (laid : s.gutterRows? rows wrap = some (drawn, shown)) : drawn = { s with gutter := ⟨false⟩ } := by
  unfold gutterRows? Gutter.layout? at laid
  split at laid
  · cases laid
  · cases laid
    rfl

theorem gutterRows?_congr {s' drawn : Session} {rows : Nat} {wrap : Option Nat}
    {shown : List GutterRow} (buffer : s'.buffer = s.buffer)
    (view : s'.firstVisible = s.firstVisible) (laid : s.gutterRows? rows wrap = some (drawn, shown)) :
    ∃ again, s'.gutterRows? rows wrap = some (again, shown) := by
  unfold gutterRows? Gutter.layout? at *
  rw [buffer, view]
  split at laid
  · cases laid
  · next hrows =>
    rw [if_neg hrows]
    cases laid
    exact ⟨_, rfl⟩

theorem fresh_steps (h : s.InStep options) {parts : List Part}
    (latest : ∀ rows wrap, .aside (.gutterRows rows wrap) ∉ parts)
    (fresh : (s.steps parts).gutter.stale = false) :
    s.gutter.stale = false ∧ (s.steps parts).buffer = s.buffer ∧
      (s.steps parts).firstVisible = s.firstVisible := by
  induction parts generalizing s with
  | nil => exact ⟨fresh, rfl, rfl⟩
  | cons part parts ih =>
    have hpart : ∀ rows wrap, part ≠ .aside (.gutterRows rows wrap) := by
      rintro rows wrap rfl
      exact latest rows wrap List.mem_cons_self
    have hparts : ∀ rows wrap, .aside (.gutterRows rows wrap) ∉ parts :=
      fun rows wrap hmem => latest rows wrap (List.mem_cons_of_mem _ hmem)
    -- Only drawing makes rows fresh, so they were fresh before the last parts as well.
    obtain ⟨hnext, hbuffer, hview⟩ := ih (inStep_step h part) hparts fresh
    rw [gutter_step h hpart] at hnext
    obtain ⟨hhere, hbuffer', hview'⟩ := (turns_step h part).fresh hnext
    exact ⟨hhere, hbuffer.trans hbuffer', hview.trans hview'⟩

theorem stale_step (h : s.InStep options) {part : Part}
    (draws : ∀ rows wrap, part ≠ .aside (.gutterRows rows wrap))
    (changes : s.changesText part = true ∨ (s.step part).firstVisible ≠ s.firstVisible) :
    (s.step part).gutter.stale = true := by
  rw [← Bool.not_eq_false, gutter_step h draws]
  intro fresh
  obtain ⟨-, -, hview⟩ := (turns_step h part).fresh fresh
  rcases changes with htext | hmoves
  · rw [published_of_changesText htext] at fresh
    cases fresh
  · exact hmoves hview

/-- Rows that are still fresh are those that would be drawn now, and a change of the text or of the view
leaves them stale until they are drawn. -/
theorem fresh_rows_are_current (library : Library) (disk : Disk) (options : EditorOptions)
    (before after : List Action) {rows : Nat} {wrap : Option Nat} {drawn : Session}
    {shown : List GutterRow}
    (laid : ((start library disk options).run before).gutterRows? rows wrap = some (drawn, shown))
    (latest : ∀ rows wrap, .aside (.gutterRows rows wrap) ∉ after) :
    let now := drawn.run after
    (now.gutter.stale = false → ∃ again, now.gutterRows? rows wrap = some (again, shown)) ∧
      ∀ done part todo, drawn.allParts after = done ++ part :: todo →
        (drawn.steps done).changesText part = true ∨
          ((drawn.steps done).step part).firstVisible ≠ (drawn.steps done).firstVisible →
        now.gutter.stale = true := by
  have hs := inStep_run library disk options before
  generalize (start library disk options).run before = s at hs laid
  intro now
  have hdrawn : drawn = { s with gutter := ⟨false⟩ } := gutterRows?_eq laid
  have hbuffer : drawn.buffer = s.buffer := by rw [hdrawn]
  have hview : drawn.firstVisible = s.firstVisible := by rw [hdrawn]
  have hstep : drawn.InStep options := by
    rw [hdrawn]
    exact hs.congr rfl
  have hlatest : ∀ rows wrap, .aside (.gutterRows rows wrap) ∉ drawn.allParts after :=
    fun rows wrap => not_mem_allParts rfl (latest rows wrap)
  constructor
  · intro fresh
    have hnow : now = drawn.steps (drawn.allParts after) := (steps_allParts drawn after).symm
    rw [hnow] at fresh ⊢
    obtain ⟨-, hbuffer', hview'⟩ := fresh_steps hstep hlatest fresh
    exact gutterRows?_congr (hbuffer'.trans hbuffer) (hview'.trans hview) laid
  · intro done part todo hparts changes
    have hhere := inStep_steps hstep done
    have hnow : now = ((drawn.steps done).step part).steps todo := by
      rw [← steps_cons, ← steps_append, ← hparts, steps_allParts]
    rw [hparts] at hlatest
    have hpart : ∀ rows wrap, part ≠ .aside (.gutterRows rows wrap) := by
      rintro rows wrap rfl
      exact hlatest rows wrap (List.mem_append_right _ List.mem_cons_self)
    have htodo : ∀ rows wrap, .aside (.gutterRows rows wrap) ∉ todo := fun rows wrap hmem =>
      hlatest rows wrap (List.mem_append_right _ (List.mem_cons_of_mem _ hmem))
    rw [← Bool.not_eq_false, hnow]
    intro fresh
    obtain ⟨hnext, -, -⟩ := fresh_steps (inStep_step hhere part) htodo fresh
    rw [stale_step hhere hpart changes] at hnext
    cases hnext

theorem fresh_rows_are_current_selection :
    let s := (start default default .standard).run [.setText ['a', '\n', 'b'], .aside (.scrollTo 2)]
    let drawn := s.perform (.aside (.gutterRows 5 none))
    let selected := drawn.run [.execute .selectAll]
    let typed := drawn.run [.execute .selectAll, .execute (.insertText ['c'])]
    (s.gutterRows? 5 none = some (drawn, [⟨0, some 2, 2⟩])) ∧
      (selected.gutter.stale = false ∧
        ∃ again, selected.gutterRows? 5 none = some (again, [⟨0, some 2, 2⟩])) ∧
      typed.gutter.stale = true := by
  intro s drawn selected typed
  have laid : s.gutterRows? 5 none = some (drawn, [⟨0, some 2, 2⟩]) := rfl
  have hfresh := fresh_rows_are_current default default .standard _ [.execute .selectAll] laid
    (by intro rows wrap hmem; simp at hmem)
  have hstale := fresh_rows_are_current default default .standard _
    [.execute .selectAll, .execute (.insertText ['c'])] laid (by intro rows wrap hmem; simp at hmem)
  refine ⟨laid, ⟨rfl, hfresh.1 rfl⟩, ?_⟩
  exact hstale.2 [.aside (.select ⟨0, 3⟩)] _ [] rfl (.inl rfl)

/-! ## Where the view is -/

theorem firstVisible_of_outside (h : s.InStep options) {parts : List Part}
    (outside : ∀ early, early <+: parts →
      (s.steps early).buffer.length < (s.steps early).firstVisible) :
    (s.steps parts).firstVisible = s.firstVisible := by
  induction parts generalizing s with
  | nil => rfl
  | cons part parts ih =>
    have hhere : (s.step part).firstVisible = s.firstVisible :=
      (turns_step h part).outside (outside [part] ⟨parts, rfl⟩)
    have hlater := ih (inStep_step h part)
      (fun early hearly => outside (part :: early) (List.cons_prefix_cons.mpr ⟨rfl, hearly⟩))
    exact hlater.trans hhere

theorem cut_off_step (h : s.InStep options) {part : Part}
    (inside : s.firstVisible ≤ s.buffer.length)
    (outside : (s.step part).buffer.length < (s.step part).firstVisible) :
    (s.step part).firstVisible = s.firstVisible ∧ s.changesText part = true ∧
      ∀ text, part ≠ .setText text := by
  have hview : (s.step part).firstVisible = s.firstVisible := (turns_step h part).outside outside
  refine ⟨hview, ?_, ?_⟩
  · by_contra hsame
    have hbuffer := ((tells_published h part).kept (Bool.eq_false_iff.mpr hsame)).1
    rw [hbuffer, hview] at outside
    omega
  · rintro text rfl
    exact absurd outside (Nat.not_lt_zero _)

/-- The view is outside of the text exactly when an edit has cut the text off before it, and it has been
left there. -/
theorem outside_iff_cut_off (library : Library) (disk : Disk) (options : EditorOptions)
    (actions : List Action) :
    let first := start library disk options
    let s := first.run actions
    s.buffer.length < s.firstVisible ↔
      ∃ done part todo, first.allParts actions = done ++ part :: todo ∧
        let here := first.steps done
        here.firstVisible ≤ here.buffer.length ∧ here.changesText part = true ∧
          (∀ text, part ≠ .setText text) ∧
          ∀ early, early <+: todo →
            let later := (here.step part).steps early
            later.firstVisible = here.firstVisible ∧ later.buffer.length < here.firstVisible := by
  intro first s
  have hfirst : first.InStep options := inStep_start library disk
  have hs : s = first.steps (first.allParts actions) := (steps_allParts first actions).symm
  constructor
  · intro outside
    have hstart : first.firstVisible ≤ first.buffer.length := Nat.zero_le _
    have hend : ¬ (first.steps (first.allParts actions)).firstVisible ≤
        (first.steps (first.allParts actions)).buffer.length := by
      rw [← hs]
      omega
    obtain ⟨done, part, todo, hparts, hhere, hafter⟩ :=
      exists_last (P := fun s => s.firstVisible ≤ s.buffer.length) hstart hend
    simp only [Nat.not_le] at hafter
    have hstep := inStep_steps hfirst done
    obtain ⟨hview, hchanges, hother⟩ := cut_off_step hstep hhere (hafter [] List.nil_prefix)
    refine ⟨done, part, todo, hparts, hhere, hchanges, hother, ?_⟩
    intro early hearly
    have hlater := firstVisible_of_outside (inStep_step hstep part)
      (fun earlier hearlier => hafter earlier (hearlier.trans hearly))
    have hcut := hafter early hearly
    rw [hlater, hview] at hcut
    exact ⟨hlater.trans hview, hcut⟩
  · rintro ⟨done, part, todo, hparts, -, -, -, hafter⟩
    obtain ⟨hview, hcut⟩ := hafter todo List.prefix_rfl
    rw [hs, hparts, steps_append, steps_cons, hview]
    exact hcut

/-- A deletion can cut the text off before the view. -/
theorem view_outside_after_deletion :
    ¬ ∀ actions : List Action,
      let s := (start default default .standard).run actions
      s.firstVisible ≤ s.buffer.length := by
  intro h
  have hinside := h [.setText ['a', 'b'], .aside (.scrollTo 2), .execute .deleteForward]
  revert hinside
  decide

/-! ## What is heard of the view -/

theorem firstVisible_edit (s : Session) (span : Span) (text : List Char) (intent? : Option Intent)
    (cursor? : Option Nat) : (s.edit span text intent? cursor?).1.firstVisible = s.firstVisible := by
  unfold edit
  simp only
  split <;> rfl

theorem firstVisible_applyStep (s : Session) (step? : Option (History × Replacement)) :
    (s.applyStep step?).1.firstVisible = s.firstVisible := by
  cases step? with
  | none => rfl
  | some step => exact firstVisible_edit _ step.2.span step.2.text none (some step.2.cursor)

theorem scroll_step (h : s.InStep options) (part : Part) :
    (s.published part).filterMap Event.scroll? = [(s.step part).firstVisible] ∧
        (s.step part).firstVisible ≠ s.firstVisible ∨
      (s.published part).filterMap Event.scroll? = [] ∧
        ((s.step part).firstVisible = s.firstVisible ∨ ∃ text, part = .setText text) := by
  rcases (turns_step h part).scroll with htold | ⟨hsilent, hsame | htext⟩
  · exact .inl htold
  · exact .inr ⟨hsilent, .inl hsame⟩
  · refine .inr ⟨hsilent, ?_⟩
    cases part with
    | edit span text intent cursor? => exact .inl (s.firstVisible_edit span text _ cursor?)
    | undo => exact .inl (s.firstVisible_applyStep _)
    | redo => exact .inl (s.firstVisible_applyStep _)
    | setText text => exact .inr ⟨text, rfl⟩
    | aside call => exact absurd (s.textRevisions_publishedAside call) htext

/-- Where the view is as far as a listener has been told. -/
def viewHeard (s : Session) (listener : Subscription) : Nat :=
  ((s.bus.heard listener).filterMap Event.scroll?).getLastD 0

theorem viewHeard_step (h : s.InStep options) (hears : s.Hears listener) {part : Part}
    (stays : part ≠ .aside (.unsubscribe listener)) :
    (s.step part).viewHeard listener = (s.step part).firstVisible ∧
        (s.step part).firstVisible ≠ s.firstVisible ∨
      (s.step part).viewHeard listener = s.viewHeard listener ∧
        ((s.step part).firstVisible = s.firstVisible ∨ ∃ text, part = .setText text) := by
  unfold viewHeard
  rw [(hears_step h hears stays).2, List.filterMap_append]
  rcases scroll_step h part with ⟨htold, hmoves⟩ | ⟨hsilent, hsame⟩
  · left
    rw [htold]
    exact ⟨List.getLastD_concat .., hmoves⟩
  · right
    rw [hsilent, List.append_nil]
    exact ⟨rfl, hsame⟩

theorem viewHeard_setText (h : s.InStep options) (hears : s.Hears listener) (text : List Char) :
    (s.setText text).viewHeard listener = s.viewHeard listener := by
  have stays : Part.setText text ≠ .aside (.unsubscribe listener) := by nofun
  have hheard : (s.setText text).bus.heard listener = _ := (hears_step h hears stays).2
  have hsilent : (s.published (.setText text)).filterMap Event.scroll? = [] := rfl
  unfold viewHeard
  rw [hheard, List.filterMap_append, hsilent, List.append_nil]

theorem reopened_step (h : s.InStep options) (hears : s.Hears listener) {part : Part}
    (stays : part ≠ .aside (.unsubscribe listener)) (known : s.viewHeard listener = s.firstVisible)
    (wrong : (s.step part).viewHeard listener ≠ (s.step part).firstVisible) :
    s.firstVisible ≠ 0 ∧ ∃ text, part = .setText text := by
  rcases viewHeard_step h hears stays with ⟨htold, -⟩ | ⟨hheard, hsame | ⟨text, rfl⟩⟩
  · exact absurd htold wrong
  · rw [hheard, hsame] at wrong
    exact absurd known wrong
  · refine ⟨?_, text, rfl⟩
    intro htop
    apply wrong
    rw [hheard, known, htop]
    rfl

/-- A listener can be wrong only about a view that is at the top. -/
theorem viewHeard_or_top (h : s.InStep options) (hears : s.Hears listener) {parts : List Part}
    (stays : .aside (.unsubscribe listener) ∉ parts)
    (known : s.viewHeard listener = s.firstVisible ∨ s.firstVisible = 0) :
    (s.steps parts).viewHeard listener = (s.steps parts).firstVisible ∨
      (s.steps parts).firstVisible = 0 := by
  induction parts generalizing s with
  | nil => exact known
  | cons part parts ih =>
    rw [List.mem_cons, not_or] at stays
    have hpart := Ne.symm stays.1
    refine ih (inStep_step h part) (hears_step h hears hpart).1 stays.2 ?_
    rcases viewHeard_step h hears hpart with ⟨htold, -⟩ | ⟨hheard, hview | ⟨text, rfl⟩⟩
    · exact .inl htold
    · rw [hheard, hview]
      exact known
    · exact .inr rfl

theorem viewHeard_of_top (h : s.InStep options) (hears : s.Hears listener) {parts : List Part}
    (stays : .aside (.unsubscribe listener) ∉ parts)
    (top : ∀ early, early <+: parts → (s.steps early).firstVisible = 0) :
    (s.steps parts).viewHeard listener = s.viewHeard listener := by
  induction parts generalizing s with
  | nil => rfl
  | cons part parts ih =>
    rw [List.mem_cons, not_or] at stays
    have hpart := Ne.symm stays.1
    have hlater := ih (inStep_step h part) (hears_step h hears hpart).1 stays.2
      (fun early hearly => top (part :: early) (List.cons_prefix_cons.mpr ⟨rfl, hearly⟩))
    have hhere : s.firstVisible = 0 := top [] List.nil_prefix
    have hnext : (s.step part).firstVisible = 0 := top [part] ⟨parts, rfl⟩
    rw [steps_cons, hlater]
    -- What is told has moved the view, but it was at the top before and is there now.
    rcases viewHeard_step h hears hpart with ⟨-, hmoves⟩ | ⟨hheard, -⟩
    · exact absurd (hnext.trans hhere.symm) hmoves
    · exact hheard

/-- Who listens from the start is wrong about the view exactly when another text has been opened while it
was not at the top, and it has been at the top ever since. -/
theorem viewHeard_ne_iff_reopened (library : Library) (disk : Disk) (options : EditorOptions)
    (actions : List Action) :
    let joined := (start library disk options).subscribe.1
    let listener := (start library disk options).subscribe.2
    let s := joined.run actions
    .aside (.unsubscribe listener) ∉ actions →
    (s.viewHeard listener ≠ s.firstVisible ↔
      ∃ done text todo, joined.allParts actions = done ++ .setText text :: todo ∧
        (joined.steps done).firstVisible ≠ 0 ∧
        ∀ early, early <+: todo →
          (((joined.steps done).setText text).steps early).firstVisible = 0) := by
  have hfirst : (start library disk options).InStep options := inStep_start library disk
  have hsound : (start library disk options).bus.Sound := sound_run library disk options []
  have htop : (start library disk options).firstVisible = 0 := rfl
  generalize start library disk options = first at hfirst hsound htop
  intro joined listener s stays
  have hjoined : joined.InStep options := hfirst.congr rfl
  have hears : joined.Hears listener := hears_subscribe hsound
  have hs : s = joined.steps (joined.allParts actions) := (steps_allParts joined actions).symm
  have hstays : .aside (.unsubscribe listener) ∉ joined.allParts actions :=
    not_mem_allParts rfl stays
  have hnothing : joined.bus.heard listener = [] := EventBus.heard_subscribe hsound
  have hknown : joined.viewHeard listener = joined.firstVisible := by
    unfold viewHeard
    rw [hnothing]
    exact htop.symm
  rw [hs]
  constructor
  · intro wrong
    obtain ⟨done, part, todo, hparts, hhere, hafter⟩ :=
      exists_last (P := fun s => s.viewHeard listener = s.firstVisible) hknown wrong
    rw [hparts, List.mem_append, List.mem_cons, not_or, not_or] at hstays
    obtain ⟨hdone, hpart, htodo⟩ := hstays
    have hstep := inStep_steps hjoined done
    have hhears := (hears_steps hjoined hears hdone).1
    obtain ⟨hview, text, rfl⟩ :=
      reopened_step hstep hhears (Ne.symm hpart) hhere (hafter [] List.nil_prefix)
    refine ⟨done, text, todo, hparts, hview, ?_⟩
    intro early hearly
    have hearly' : .aside (.unsubscribe listener) ∉ early := fun hmem => htodo (hearly.subset hmem)
    have hor := viewHeard_or_top (inStep_step hstep (.setText text))
      (hears_step hstep hhears (Ne.symm hpart)).1 hearly' (.inr rfl)
    exact hor.resolve_left (hafter early hearly)
  · rintro ⟨done, text, todo, hparts, hview, hafter⟩
    rw [hparts, List.mem_append, List.mem_cons, not_or, not_or] at hstays
    obtain ⟨hdone, hpart, htodo⟩ := hstays
    have hstep := inStep_steps hjoined done
    have hhears := (hears_steps hjoined hears hdone).1
    have hhere := (viewHeard_or_top hjoined hears hdone (.inl hknown)).resolve_right hview
    have hlater := viewHeard_of_top (inStep_step hstep (.setText text))
      (hears_step hstep hhears (Ne.symm hpart)).1 htodo hafter
    rw [hparts, steps_append, steps_cons, hlater, step, viewHeard_setText hstep hhears, hhere,
      hafter todo List.prefix_rfl]
    exact hview

theorem viewHeard_ne_iff_reopened_same :
    let joined := (start default default .standard).subscribe.1
    let listener := (start default default .standard).subscribe.2
    let actions : List Action := [.setText ['a', 'b'], .aside (.scrollTo 2), .setText ['a', 'b']]
    .aside (.unsubscribe listener) ∉ actions ∧
      (joined.run actions).viewHeard listener ≠ (joined.run actions).firstVisible := by
  intro joined listener actions
  have stays : .aside (.unsubscribe listener) ∉ actions := by
    intro hmem
    simp [actions] at hmem
  refine ⟨stays, (viewHeard_ne_iff_reopened default default .standard actions stays).mpr ?_⟩
  refine ⟨[.setText ['a', 'b'], .aside (.scrollTo 2)], ['a', 'b'], [], rfl, ?_, ?_⟩
  · decide
  · intro early hearly
    rw [List.prefix_nil.mp hearly]
    rfl

/-- Opening a text moves the view, and nobody is told. -/
theorem reopening_is_not_told :
    let joined := (start default default .standard).subscribe.1
    let listener := (start default default .standard).subscribe.2
    ¬ ∀ actions : List Action, (∀ l, .aside (.unsubscribe l) ∉ actions) →
      (joined.run actions).viewHeard listener = (joined.run actions).firstVisible := by
  intro joined listener h
  have htold := h [.setText ['a', 'b'], .aside (.scrollTo 2), .setText ['a', 'b']]
    (by intro l hmem; simp at hmem)
  revert htold
  decide

end Session

end CodeEditor
