import CodeEditor.Proofs.Session.Announcements

/-! # What a listener knows

Who remembers the last event of each kind knows what the session shows, and can tell a newer text from
an older one.
-/

namespace CodeEditor

/-! ## The mirror -/

/-- What the last events of each kind have said. -/
structure Mirror where
  revision : UInt64
  report : Highlight.Report
  cursor : Nat
  selection : Option Span
  theme : String
  grammar : String
  deriving DecidableEq

def Mirror.hear (m : Mirror) : Event → Mirror
  | .textChanged revision => { m with revision := revision }
  | .highlighted revision report => { m with revision := revision, report := report }
  | .selectionChanged cursor selection => { m with cursor := cursor, selection := selection }
  | .themeChanged name => { m with theme := name }
  | .grammarChanged name => { m with grammar := name }
  | .scrollChanged _ => m

theorem Event.toNat_revision {before after : UInt64}
    (room : before.toNat + (after - before).toNat < UInt64.size) :
    after.toNat = before.toNat + (after - before).toNat := by
  have hsum := UInt64.toNat_add before (after - before)
  rw [UInt64.add_comm, UInt64.sub_add_cancel] at hsum
  exact hsum.trans (Nat.mod_eq_of_lt room)

namespace Scene

variable {v v' : Scene} {events : List Event}

def mirror (v : Scene) : Mirror :=
  ⟨v.revision, v.report, v.selection.cursor, v.selection.span?, v.theme.name, v.grammar.name⟩

theorem Turns.mirror (h : v.Turns events v') : events.foldl Mirror.hear v.mirror = v'.mirror := by
  cases h with
  | quiet => rfl
  | changed v' grows theme grammar view =>
    unfold Scene.mirror
    rw [theme, grammar]
    rfl
  | selected selection => rfl
  | scrolled position inside moves => rfl
  | repainted revision report theme grammar e grows named =>
    rcases named with ⟨rfl, rfl⟩ | ⟨rfl, rfl⟩ <;> rfl

theorem Turns.revision (h : v.Turns events v')
    (room : v.revision.toNat + (v'.revision - v.revision).toNat < UInt64.size) :
    events.filterMap Event.textRevision? = [] ∧ v.revision ≤ v'.revision ∨
      events.filterMap Event.textRevision? = [v'.revision] ∧ v.revision < v'.revision := by
  have hsum := Event.toNat_revision room
  cases h with
  | quiet => exact .inl ⟨rfl, UInt64.le_refl _⟩
  | changed v' grows theme grammar view =>
    have hmore : v'.revision - v.revision = 1 ∨ v'.revision - v.revision = 2 := by grind
    refine .inr ⟨rfl, ?_⟩
    rw [UInt64.lt_iff_toNat_lt]
    rcases hmore with h | h <;> simp [h] at hsum <;> omega
  | selected selection => exact .inl ⟨rfl, UInt64.le_refl _⟩
  | scrolled position inside moves => exact .inl ⟨rfl, UInt64.le_refl _⟩
  | repainted revision report theme grammar e grows named =>
    refine .inl ⟨?_, ?_⟩
    · rcases named with ⟨rfl, rfl⟩ | ⟨rfl, rfl⟩ <;> rfl
    · rw [UInt64.le_iff_toNat_le]
      omega

theorem Turns.toNat_sub_le (h : v.Turns events v') : (v'.revision - v.revision).toNat ≤ 2 := by
  have hsame : v'.revision = v.revision ∨ v'.revision = v.revision + 1 ∨
      v'.revision = v.revision + 1 + 1 := by
    cases h with
    | changed v' grows theme grammar view => exact .inr grows
    | repainted revision report theme grammar e grows named =>
      rcases grows with h | h
      · exact .inl h
      · exact .inr (.inl h)
    | _ => exact .inl rfl
  have hless : v'.revision - v.revision = 0 ∨ v'.revision - v.revision = 1 ∨
      v'.revision - v.revision = 2 := by grind
  rcases hless with h | h | h <;> rw [h] <;> decide

end Scene

namespace Session

variable {options : EditorOptions} {s : Session}

/-! ## Runs -/

/-- How often the display changes: a change of the text counts, and so does a pass that repaints. -/
def changesIn (s : Session) : List Part → Nat
  | [] => 0
  | part :: parts => ((s.step part).revision - s.revision).toNat + (s.step part).changesIn parts

theorem changesIn_le (h : s.InStep options) (parts : List Part) :
    s.changesIn parts ≤ 2 * parts.length := by
  induction parts generalizing s with
  | nil => exact Nat.zero_le _
  | cons part parts ih =>
    have hhere : ((s.step part).revision - s.revision).toNat ≤ 2 := (turns_step h part).toNat_sub_le
    have hlater := ih (inStep_step h part)
    rw [changesIn, List.length_cons]
    omega

theorem mirror_publishedIn (h : s.InStep options) (parts : List Part) :
    (s.publishedIn parts).foldl Mirror.hear s.scene.mirror = (s.steps parts).scene.mirror := by
  induction parts generalizing s with
  | nil => rfl
  | cons part parts ih =>
    rw [publishedIn, List.foldl_append, (turns_step h part).mirror]
    exact ih (inStep_step h part)

theorem increasing_publishedIn (h : s.InStep options) {parts : List Part}
    (room : s.revision.toNat + s.changesIn parts < UInt64.size) :
    (s.revision :: (s.publishedIn parts).filterMap Event.textRevision?).Pairwise (· < ·) := by
  induction parts generalizing s with
  | nil => exact List.pairwise_singleton _ _
  | cons part parts ih =>
    rw [changesIn] at room
    have hroom : s.revision.toNat + ((s.step part).revision - s.revision).toNat < UInt64.size := by
      omega
    have hsum := Event.toNat_revision hroom
    have hlater := ih (inStep_step h part) (by omega)
    obtain ⟨hafter, hrest⟩ := List.pairwise_cons.mp hlater
    rw [publishedIn, List.filterMap_append]
    -- A part that tells of no text may still raise the revision, by painting it anew.
    rcases (turns_step h part).revision hroom with ⟨hnone, hle⟩ | ⟨hone, hlt⟩
    · rw [hnone]
      refine List.pairwise_cons.mpr ⟨?_, hrest⟩
      intro revision hmem
      exact UInt64.lt_of_le_of_lt hle (hafter revision hmem)
    · rw [hone]
      refine List.pairwise_cons.mpr ⟨?_, hlater⟩
      intro revision hmem
      rcases List.mem_cons.mp hmem with rfl | hmem
      · exact hlt
      · exact UInt64.lt_trans hlt (hafter revision hmem)

/-- Who listens and stays knows after every action what the session shows. It hears three events of each
change of the text, and in those that tell of the text the revision grows until its numbers are used
up. -/
theorem mirror_run (library : Library) (disk : Disk) (options : EditorOptions)
    (before after : List Action) :
    let joined := ((start library disk options).run before).subscribe.1
    let listener := ((start library disk options).run before).subscribe.2
    let heard := (joined.run after).bus.heard listener
    .aside (.unsubscribe listener) ∉ after →
    heard.foldl Mirror.hear joined.scene.mirror = (joined.run after).scene.mirror ∧
      (∀ done part todo, joined.allParts after = done ++ part :: todo →
        ∃ events, (joined.steps done).Tells part events ∧
          ((joined.steps done).step part).bus.heard listener =
            (joined.steps done).bus.heard listener ++ events) ∧
      (joined.revision.toNat + joined.changesIn (joined.allParts after) < UInt64.size →
        (joined.revision :: heard.filterMap Event.textRevision?).Pairwise (· < ·)) := by
  have hbefore := inStep_run library disk options before
  have hsound := sound_run library disk options before
  generalize (start library disk options).run before = s at hbefore hsound
  intro joined listener heard stays
  have hjoined : joined.InStep options := hbefore.congr rfl
  have hears : joined.Hears listener := hears_subscribe hsound
  have hnothing : joined.bus.heard listener = [] := EventBus.heard_subscribe hsound
  have hstays : .aside (.unsubscribe listener) ∉ joined.allParts after :=
    not_mem_allParts rfl stays
  have hheard : heard = joined.publishedIn (joined.allParts after) := by
    have hall := (hears_steps hjoined hears hstays).2
    rw [steps_allParts, hnothing, List.nil_append] at hall
    exact hall
  refine ⟨?_, ?_, ?_⟩
  · rw [hheard, mirror_publishedIn hjoined, steps_allParts]
  · intro done part todo hparts
    rw [hparts, List.mem_append, List.mem_cons, not_or, not_or] at hstays
    obtain ⟨hdone, hpart, -⟩ := hstays
    have hhere := inStep_steps hjoined done
    have hhears := (hears_steps hjoined hears hdone).1
    exact ⟨_, tells_published hhere part, (hears_step hhere hhears (Ne.symm hpart)).2⟩
  · intro room
    rw [hheard]
    exact increasing_publishedIn hjoined room

theorem revision_start (library : Library) (disk : Disk) (options : EditorOptions) :
    (start library disk options).revision.toNat ≤ 1 := by
  unfold start
  rcases revision_rehighlight _ with h | h
  · rw [h]
    exact Nat.zero_le 1
  · rw [h]
    exact Nat.le_refl 1

theorem mirror_run_indentation :
    let joined := ((start default default .standard).run []).subscribe.1
    let listener := ((start default default .standard).run []).subscribe.2
    let after : List Action := [.aside (.setSmartSubstitution true),
      .execute (.insertText [' ', '<', '=']), .execute .insertNewline, .aside (.scrollTo 2),
      .execute .undo]
    let heard := (joined.run after).bus.heard listener
    .aside (.unsubscribe listener) ∉ after ∧
      joined.revision.toNat + joined.changesIn (joined.allParts after) < UInt64.size ∧
      heard.foldl Mirror.hear joined.scene.mirror = (joined.run after).scene.mirror ∧
      (joined.revision :: heard.filterMap Event.textRevision?).Pairwise (· < ·) ∧
      (heard.filterMap Event.textRevision?).length = 5 := by
  intro joined listener after heard
  have stays : .aside (.unsubscribe listener) ∉ after := by
    intro hmem
    simp [after] at hmem
  have hrevision : joined.revision.toNat ≤ 1 := revision_start default default .standard
  have hjoined : joined.InStep .standard := (inStep_run default default .standard []).congr rfl
  have hparts : (joined.allParts after).length = 7 := by decide
  have hchanges := changesIn_le hjoined (joined.allParts after)
  have hsize : 15 < UInt64.size := by decide
  have room : joined.revision.toNat + joined.changesIn (joined.allParts after) < UInt64.size := by
    omega
  obtain ⟨hmirror, -, hgrows⟩ := mirror_run default default .standard [] after stays
  exact ⟨stays, room, hmirror, hgrows room, by decide⟩

end Session

end CodeEditor
