import CodeEditor.Proofs.Settings.Calls
import Mathlib.Data.List.Induction
import Mathlib.Logic.Function.Basic

/-! # Two programs with one settings file

Each of two programs has read the file at some time and writes all its values with every change. What
stands in the file is what the one that has written last knows: its own changes since it read the file,
and otherwise what it read then.
-/

namespace CodeEditor.Settings

inductive Party where
  | editor
  | commandLine
  deriving DecidableEq

abbrev Move := Party × Call

/-- The settings of the two, and the disk with their file. -/
structure Shared where
  settings : Party → Settings
  disk : Disk

namespace Shared

/-- Both have just read the file. -/
def opened (d : Disk) (file : Path) : Shared := ⟨fun _ => openFile d file, d⟩

def move (w : Shared) (m : Move) : Shared :=
  let (s, d) := (w.settings m.1).call w.disk m.2
  ⟨Function.update w.settings m.1 s, d⟩

def moves (w : Shared) (ms : List Move) : Shared := ms.foldl move w

/-- What settings answer that are read from the file now. -/
def fileAnswer (w : Shared) (file : Path) (name : String) : Option (Option String × Option Bool) :=
  (openFile w.disk file).answer name

def writes (w : Shared) (m : Move) : Bool := m.2.writes (w.settings m.1)

/-- Whenever a move writes the file, the file can be written. -/
def Writable (w : Shared) : List Move → Prop
  | [] => True
  | m :: ms => (w.writes m = true →
        (((w.settings m.1).call w.disk m.2).1.saved? w.disk).isOk = true) ∧
      (w.move m).Writable ms

variable {w : Shared} {d : Disk} {file : Path} {p q : Party} {c : Call} {m : Move}
  {ms before since : List Move} {name : String}

theorem moves_cons (w : Shared) (m : Move) (ms : List Move) :
    w.moves (m :: ms) = (w.move m).moves ms := rfl

theorem moves_concat (w : Shared) (ms : List Move) (m : Move) :
    w.moves (ms ++ [m]) = (w.moves ms).move m := List.foldl_append

theorem moves_append (w : Shared) (ms more : List Move) :
    w.moves (ms ++ more) = (w.moves ms).moves more := List.foldl_append

theorem writable_append {more : List Move} :
    w.Writable (ms ++ more) ↔ w.Writable ms ∧ (w.moves ms).Writable more := by
  induction ms generalizing w with
  | nil => exact (true_and _).symm.to_iff
  | cons m ms ih =>
    rw [List.cons_append, Writable, Writable, ih, and_assoc]
    rfl

theorem settings_move (w : Shared) (p : Party) (c : Call) :
    (w.move (p, c)).settings p = ((w.settings p).call w.disk c).1 := Function.update_self _ _ _

theorem settings_move_of_ne (h : q ≠ p) (w : Shared) (c : Call) :
    (w.move (p, c)).settings q = w.settings q := Function.update_of_ne h _ _

/-! ## Files and settings that fit each other -/

/-- Both use this file, and have values that it can hold. -/
structure On (w : Shared) (file : Path) : Prop where
  place : ∀ p, (w.settings p).file = some file
  stable : ∀ p, Stable (w.settings p).values

theorem on_opened (d : Disk) (file : Path) : (opened d file).On file := by
  have hkept := keptIn_openFile d file
  exact ⟨fun _ => hkept.place, fun _ => hkept.stable⟩

theorem On.move (h : w.On file) (m : Move) : (w.move m).On file := by
  obtain ⟨p, c⟩ := m
  have hcall : ((w.settings p).call w.disk c).1.file = some file ∧
      Stable ((w.settings p).call w.disk c).1.values := by
    cases hwrites : c.writes (w.settings p) with
    | true =>
      obtain ⟨hstable, hfile, -⟩ := call_of_writes hwrites (h.stable p) w.disk
      exact ⟨hfile.trans (h.place p), hstable⟩
    | false =>
      obtain ⟨-, rfl | hsame⟩ := call_of_not_writes hwrites w.disk
      · have hkept := keptIn_openFile w.disk file
        unfold call
        rw [h.place p]
        exact ⟨hkept.place, hkept.stable⟩
      · rw [hsame]
        exact ⟨h.place p, h.stable p⟩
  constructor
  · intro q
    by_cases hq : q = p
    · rw [hq, settings_move]
      exact hcall.1
    · rw [settings_move_of_ne hq]
      exact h.place q
  · intro q
    by_cases hq : q = p
    · rw [hq, settings_move]
      exact hcall.2
    · rw [settings_move_of_ne hq]
      exact h.stable q

theorem On.moves (h : w.On file) (ms : List Move) : (w.moves ms).On file := by
  induction ms generalizing w with
  | nil => exact h
  | cons m ms ih => exact ih (h.move m)

theorem On.keptIn_move (h : w.On file) (hwrites : w.writes (p, c) = true)
    (writable : w.Writable [(p, c)]) :
    ((w.move (p, c)).settings p).KeptIn (w.move (p, c)).disk file := by
  rw [settings_move]
  exact keptIn_call_of_writes (h.place p) (h.stable p) hwrites (writable.1 hwrites)

theorem disk_move_of_not_writes (h : w.writes m = false) : (w.move m).disk = w.disk :=
  (call_of_not_writes h w.disk).1

/-! ## The last one to write -/

def callsOf (p : Party) (ms : List Move) : List Call :=
  ms.filterMap fun m => if m.1 = p then some m.2 else none

theorem answer_moves (h : (p, .reopen) ∉ ms) (w : Shared) (name : String) :
    ((w.moves ms).settings p).answer name =
      (callsOf p ms).foldl (Call.answer name) ((w.settings p).answer name) := by
  induction ms generalizing w with
  | nil => rfl
  | cons m ms ih =>
    obtain ⟨q, c⟩ := m
    rw [List.mem_cons, not_or] at h
    rw [moves_cons, ih h.2]
    by_cases hq : q = p
    · subst hq
      have hother : c ≠ .reopen := by
        rintro rfl
        exact h.1 rfl
      rw [settings_move, answer_call hother, callsOf, callsOf, List.filterMap_cons, if_pos rfl]
      rfl
    · rw [settings_move_of_ne (Ne.symm hq), callsOf, callsOf, List.filterMap_cons, if_neg hq]

def Idle (w : Shared) (ms : List Move) : Prop :=
  ∀ earlier m later, ms = earlier ++ m :: later → (w.moves earlier).writes m = false

theorem Idle.of_append {more : List Move} (h : w.Idle (ms ++ more)) :
    w.Idle ms ∧ (w.moves ms).Idle more := by
  refine ⟨?_, ?_⟩
  · rintro earlier m later rfl
    exact h earlier m (later ++ more) (by simp)
  · rintro earlier m later rfl
    rw [← moves_append]
    exact h (ms ++ earlier) m later (by simp)

theorem idle_moves (h : w.Idle ms) (unread : (p, .reopen) ∉ ms) :
    (w.moves ms).disk = w.disk ∧ (w.moves ms).settings p = w.settings p := by
  induction ms using List.reverseRecOn with
  | nil => exact ⟨rfl, rfl⟩
  | append_singleton ms m ih =>
    obtain ⟨q, c⟩ := m
    rw [List.mem_append, not_or, List.mem_singleton] at unread
    obtain ⟨hdisk, hsettings⟩ := ih h.of_append.1 unread.1
    have hlast : (w.moves ms).writes (q, c) = false := h ms (q, c) [] rfl
    rw [moves_concat]
    refine ⟨(disk_move_of_not_writes hlast).trans hdisk, ?_⟩
    by_cases hp : p = q
    · subst hp
      have hsame := (call_of_not_writes hlast (w.moves ms).disk).2.resolve_left
        fun hreopen => unread.2 (congrArg (Prod.mk p) hreopen.symm)
      rw [settings_move, hsame, hsettings]
    · rw [settings_move_of_ne hp, hsettings]

/-- `p` has read the file before the moves `since` for the last time, or at the start. -/
structure ReadBefore (p : Party) (before since : List Move) : Prop where
  read : before = [] ∨ ∃ earlier, before = earlier ++ [(p, .reopen)]
  unread : (p, .reopen) ∉ since

/-- `p` is the one who has written last. -/
def WroteLast (w : Shared) (p : Party) (ms : List Move) : Prop :=
  ∃ earlier c later, ms = earlier ++ (p, c) :: later ∧ (w.moves earlier).writes (p, c) = true ∧
    ((w.moves earlier).move (p, c)).Idle later

theorem ReadBefore.settings_eq (h : ReadBefore p before since) (d : Disk) (file : Path) :
    ((opened d file).moves before).settings p = openFile ((opened d file).moves before).disk file := by
  rcases h.read with rfl | ⟨earlier, rfl⟩
  · rfl
  · have hplace := ((on_opened d file).moves earlier).place p
    rw [moves_concat, settings_move, disk_move_of_not_writes rfl]
    unfold call
    rw [hplace]

theorem answer_file_of_wroteLast (writable : (opened d file).Writable (before ++ since))
    (read : ReadBefore p before since) (last : (opened d file).WroteLast p (before ++ since))
    (name : String) :
    ((opened d file).moves (before ++ since)).fileAnswer file name =
      (((opened d file).moves (before ++ since)).settings p).answer name := by
  obtain ⟨earlier, c, later, hms, hwrites, hidle⟩ := last
  by_cases hlater : (p, .reopen) ∈ later
  · -- The file has been read since, and not been written.
    rcases List.append_eq_append_iff.mp hms with ⟨first, -, rfl⟩ | ⟨passed, rfl, hpassed⟩
    · exact absurd (by simp [hlater]) read.unread
    · cases passed with
      | nil =>
        rw [List.nil_append] at hpassed
        rw [← hpassed] at read
        exact absurd (List.mem_cons_of_mem _ hlater) read.unread
      | cons m passed =>
        obtain ⟨rfl, rfl⟩ := List.cons.inj hpassed
        have hrest := hidle.of_append.2
        rw [← moves_cons, ← moves_append] at hrest
        obtain ⟨hdisk, hsettings⟩ := idle_moves hrest read.unread
        rw [moves_append, fileAnswer, hdisk, hsettings, read.settings_eq]
  · -- What was written then is known, and still stands in the file.
    rw [hms, writable_append] at writable
    have hkept := ((on_opened d file).moves earlier).keptIn_move hwrites ⟨writable.2.1, trivial⟩
    obtain ⟨hdisk, hsettings⟩ := idle_moves hidle hlater
    rw [hms, moves_append, moves_cons, fileAnswer, hdisk, hsettings]
    exact hkept.agree name

/-! ## Reading before writing -/

/-- `p` has read the file since the other one has written it last. -/
def UpToDate (w : Shared) (p : Party) (ms : List Move) : Prop :=
  ∀ earlier m later, ms = earlier ++ m :: later → m.1 ≠ p → (w.moves earlier).writes m = true →
    (p, .reopen) ∈ later

/-- Whoever sets or removes a value is up to date. -/
def ReadInTime (w : Shared) (ms : List Move) : Prop :=
  ∀ earlier p c later, ms = earlier ++ (p, c) :: later → c ≠ .reopen → w.UpToDate p earlier

theorem UpToDate.of_concat (h : w.UpToDate p (ms ++ [m])) (other : m ≠ (p, .reopen)) :
    w.UpToDate p ms := by
  rintro earlier n later rfl hn hwrites
  have hmem := h earlier n (later ++ [m]) (by simp) hn hwrites
  rw [List.mem_append, List.mem_singleton] at hmem
  exact hmem.resolve_right fun same => other same.symm

theorem upToDate_reopen (w : Shared) (p : Party) (ms : List Move) :
    w.UpToDate p (ms ++ [(p, .reopen)]) := by
  rintro earlier m later hms other -
  rcases List.eq_nil_or_concat' later with rfl | ⟨rest, last, rfl⟩
  · obtain ⟨-, hm⟩ := List.append_inj' hms rfl
    cases hm
    exact absurd rfl other
  · rw [← List.cons_append, ← List.append_assoc] at hms
    obtain ⟨-, hlast⟩ := List.append_inj' hms rfl
    rw [← hlast]
    exact List.mem_append_right _ (List.mem_singleton_self _)

theorem keptIn_of_upToDate (writable : (opened d file).Writable ms)
    (h : (opened d file).UpToDate p ms) :
    (((opened d file).moves ms).settings p).KeptIn ((opened d file).moves ms).disk file := by
  induction ms using List.reverseRecOn with
  | nil => exact keptIn_openFile d file
  | append_singleton ms m ih =>
    obtain ⟨q, c⟩ := m
    rw [writable_append] at writable
    rw [moves_concat]
    by_cases hq : q = p
    · subst hq
      by_cases hreopen : c = .reopen
      · subst hreopen
        have hplace := ((on_opened d file).moves ms).place q
        rw [settings_move, disk_move_of_not_writes rfl]
        unfold call
        rw [hplace]
        exact keptIn_openFile _ file
      · have hkept := ih writable.1 (h.of_concat fun same => hreopen (congrArg Prod.snd same))
        rw [settings_move]
        exact hkept.call writable.2.1
    · have hidle : ((opened d file).moves ms).writes (q, c) = false := by
        by_contra hwrites
        have := h ms (q, c) [] rfl hq (by simpa using hwrites)
        exact List.not_mem_nil this
      have hkept := ih writable.1 (h.of_concat fun same => hq (congrArg Prod.fst same))
      rw [settings_move_of_ne (Ne.symm hq), disk_move_of_not_writes hidle]
      exact hkept

theorem ReadInTime.of_concat (h : w.ReadInTime (ms ++ [m])) : w.ReadInTime ms := by
  rintro earlier p c later rfl
  exact h earlier p c (later ++ [m]) (by simp)

theorem ReadInTime.concat (h : w.ReadInTime ms) (last : c ≠ .reopen → w.UpToDate p ms) :
    w.ReadInTime (ms ++ [(p, c)]) := by
  intro earlier q c' later hms hset
  rcases List.eq_nil_or_concat' later with rfl | ⟨rest, _, rfl⟩
  · obtain ⟨rfl, hm⟩ := List.append_inj' hms rfl
    cases hm
    exact last hset
  · rw [← List.cons_append, ← List.append_assoc] at hms
    obtain ⟨rfl, -⟩ := List.append_inj' hms rfl
    exact h earlier q c' rest rfl hset

theorem answer_file_of_readInTime (writable : (opened d file).Writable ms)
    (h : (opened d file).ReadInTime ms) (name : String) :
    ((opened d file).moves ms).fileAnswer file name =
      (ms.map (·.2)).foldl (Call.answer name) ((opened d file).fileAnswer file name) := by
  induction ms using List.reverseRecOn with
  | nil => rfl
  | append_singleton ms m ih =>
    obtain ⟨p, c⟩ := m
    rw [writable_append] at writable
    rw [moves_concat, List.map_append, List.foldl_append, ← ih writable.1 h.of_concat]
    by_cases hreopen : c = .reopen
    · subst hreopen
      rw [fileAnswer, disk_move_of_not_writes rfl]
      rfl
    · have hkept := keptIn_of_upToDate writable.1 (h ms p c [] rfl hreopen)
      have hagain : (((opened d file).moves ms).move (p, c)).fileAnswer file name =
          ((((opened d file).moves ms).settings p).call ((opened d file).moves ms).disk c).1.answer
            name := (hkept.call writable.2.1).agree name
      rw [hagain, answer_call hreopen]
      exact congrArg (Call.answer name · c) (hkept.agree name).symm

/-- Whatever two programs do with one file, it holds what the one knows who has written last: their own
changes since they have read the file, and otherwise what they have read then. Nothing is lost where
each has read the file since the other has written it whenever they change something. -/
theorem file_follows_last_writer (d : Disk) (file : Path) (ms : List Move)
    (writable : (opened d file).Writable ms) :
    (∀ p before since, ms = before ++ since → ReadBefore p before since →
      (opened d file).WroteLast p ms →
        ∀ name, ((opened d file).moves ms).fileAnswer file name =
          (callsOf p since).foldl (Call.answer name)
            (((opened d file).moves before).fileAnswer file name)) ∧
      ((opened d file).ReadInTime ms →
        ∀ name, ((opened d file).moves ms).fileAnswer file name =
          (ms.map (·.2)).foldl (Call.answer name) ((opened d file).fileAnswer file name)) := by
  refine ⟨?_, ?_⟩
  · rintro p before since rfl read last name
    rw [answer_file_of_wroteLast writable read last, moves_append, answer_moves read.unread,
      read.settings_eq]
    rfl
  · intro readInTime name
    exact answer_file_of_readInTime writable readInTime name

theorem file_follows_last_writer_in_turn :
    let file : Path := ⟨"settings.json"⟩
    let blind : List Move := [(.editor, .setText "a" "1"), (.commandLine, .setText "b" "2"),
      (.editor, .setBool "c" true)]
    let seeing : List Move := [(.editor, .setText "a" "1"), (.commandLine, .reopen),
      (.commandLine, .setText "b" "2")]
    (opened default file).Writable blind ∧ (opened default file).Writable seeing ∧
      ((opened default file).moves blind).fileAnswer file "b" = none ∧
      ((opened default file).moves seeing).fileAnswer file "a" = some (some "1", none) := by
  intro file blind seeing
  have hblind : (opened default file).Writable blind :=
    ⟨fun _ => by decide +kernel, fun _ => by decide +kernel, fun _ => by decide +kernel, trivial⟩
  have hseeing : (opened default file).Writable seeing :=
    ⟨fun _ => by decide +kernel, nofun, fun _ => by decide +kernel, trivial⟩
  have hread : ReadBefore .editor [] blind := ⟨.inl rfl, by decide⟩
  have hlast : (opened default file).WroteLast .editor blind := by
    refine ⟨[(.editor, .setText "a" "1"), (.commandLine, .setText "b" "2")], .setBool "c" true, [],
      rfl, rfl, ?_⟩
    rintro (_ | _) m later ⟨⟩
  have hturn : (opened default file).ReadInTime seeing := by
    have hstart : (opened default file).ReadInTime [] := by
      rintro (_ | _) p c later ⟨⟩
    have hfirst := hstart.concat (p := .editor) (c := .setText "a" "1") fun _ => by
      rintro (_ | _) m later ⟨⟩
    have hread := hfirst.concat (p := .commandLine) (c := .reopen) fun h => absurd rfl h
    exact hread.concat fun _ => upToDate_reopen _ .commandLine _
  obtain ⟨hfollows, -⟩ := file_follows_last_writer default file blind hblind
  obtain ⟨-, hkeeps⟩ := file_follows_last_writer default file seeing hseeing
  refine ⟨hblind, hseeing, ?_, ?_⟩
  · rw [hfollows .editor [] blind rfl hread hlast]
    decide +kernel
  · rw [hkeeps hturn]
    decide +kernel

/-- What one of the two sets is lost when the other one writes without having read it, even if that is
about another name. -/
theorem write_unread_loses :
    ¬ ∀ (d : Disk) (file : Path) (ms : List Move), (opened d file).Writable ms →
      (∀ m ∈ ms, m.2 ≠ .reopen) →
      (∀ m ∈ ms, ∀ m' ∈ ms, m.1 ≠ m'.1 → m.2.name? ≠ m'.2.name?) →
      ∀ name, ((opened d file).moves ms).fileAnswer file name =
        (ms.map (·.2)).foldl (Call.answer name) ((opened d file).fileAnswer file name) := by
  intro h
  have hlost := h default ⟨"settings.json"⟩
    [(.editor, .setText "a" "1"), (.commandLine, .setText "b" "2")]
    ⟨fun _ => by decide +kernel, fun _ => by decide +kernel, trivial⟩ (by decide) (by decide) "a"
  exact absurd hlost (by decide +kernel)

end Shared

end CodeEditor.Settings
