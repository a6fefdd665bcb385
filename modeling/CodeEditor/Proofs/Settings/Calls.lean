import CodeEditor.Proofs.Settings

/-! # Settings in a file and in memory

Settings that are kept in a file answer as if they were only kept in memory, however often they are
read from the file again, as long as they can be written.
-/

namespace CodeEditor

/-! ## Files with nothing to read -/

namespace Json

theorem start?_of_isBlank {c : Char} (h : Text.isBlank c = true) (done : List Token) :
    Token.start? c done = some (.between, done) ∨ Token.start? c done = none := by
  have hother : ∀ other, Text.isBlank other = false → c ≠ other := by
    rintro other hfalse rfl
    rw [h] at hfalse
    cases hfalse
  have hletter : Text.isAsciiLetter c = false ∧ Text.isAsciiDigit c = false := by
    simp only [Text.isBlank, Text.isAsciiLetter, Text.isAsciiDigit, Bool.or_eq_true,
      Bool.and_eq_true, Bool.or_eq_false_iff, Bool.and_eq_false_iff, decide_eq_true_eq,
      decide_eq_false_iff_not, beq_iff_eq, Char.le_def, UInt32.le_iff_toNat_le, Char.toNat] at h ⊢
    simp only [Char.reduceVal, UInt32.reduceToNat]
    omega
  have hmark : Token.isMark c = false := by
    simp only [Token.isMark, Bool.or_eq_false_iff, beq_eq_false_iff_ne]
    refine ⟨⟨⟨⟨⟨?_, ?_⟩, ?_⟩, ?_⟩, ?_⟩, ?_⟩ <;> exact hother _ rfl
  have hword : Token.isWordChar c = false := by
    simp only [Token.isWordChar, hletter, Bool.or_eq_false_iff, beq_eq_false_iff_ne]
    refine ⟨⟨⟨⟨trivial, trivial⟩, ?_⟩, ?_⟩, ?_⟩ <;> exact hother _ rfl
  have hquote : (c == '"') = false := beq_eq_false_iff_ne.mpr (hother _ rfl)
  unfold Token.start?
  rw [hmark, hword, hquote]
  cases Token.isSpace c
  · exact .inr rfl
  · exact .inl rfl

theorem parse?_of_isBlank {text : List Char} (h : ∀ c ∈ text, Text.isBlank c = true) :
    parse? text = none := by
  have hread : Token.ofText? text = some [] ∨ Token.ofText? text = none := by
    unfold Token.ofText?
    induction text with
    | nil => exact .inl rfl
    | cons c rest ih =>
      obtain ⟨hc, hrest⟩ := List.forall_mem_cons.mp h
      rw [Token.read?, Token.step?]
      rcases start?_of_isBlank hc [] with hstart | hstart
      · rw [hstart]
        exact ih hrest
      · rw [hstart]
        exact .inr rfl
  unfold parse?
  rcases hread with hread | hread
  · rw [hread]
    rfl
  · rw [hread]
    rfl

end Json

namespace Settings

/-- A file that cannot be read, is blank, or does not write a record. -/
inductive StartsEmpty (d : Disk) (file : Path) : Prop
  | unreadable (cause : Disk.Cause) (read : d.readText file = .error cause)
  | blank (text : List Char) (read : d.readText file = .ok text)
      (blank : ∀ c ∈ text, Text.isBlank c = true)
  | malformed (text : List Char) (read : d.readText file = .ok text)
      (malformed : ∀ members,
        (Json.parse? text).bind (Json.settled? Json.maxDepth) ≠ some (.record members))

theorem valuesOf_eq_empty {text : List Char} (h : ∀ members,
    (Json.parse? text).bind (Json.settled? Json.maxDepth) ≠ some (.record members)) :
    valuesOf text = .empty := by
  unfold valuesOf
  split
  · next members hrecord => exact absurd hrecord (h members)
  · rfl

theorem values_openFile_of_startsEmpty {d : Disk} {file : Path} (h : StartsEmpty d file) :
    (openFile d file).values = .empty := by
  unfold openFile
  cases h with
  | unreadable cause read => rw [read]
  | blank text read blank =>
    rw [read]
    apply valuesOf_eq_empty
    rw [Json.parse?_of_isBlank blank]
    exact fun members => nofun
  | malformed text read malformed =>
    rw [read]
    exact valuesOf_eq_empty malformed

/-- A file that writes a record of texts and truth values. -/
def HoldsPlain (d : Disk) (file : Path) : Prop :=
  ∃ text members, d.readText file = .ok text ∧
    (Json.parse? text).bind (Json.settled? Json.maxDepth) = some (.record members) ∧
    ∀ m ∈ members, (∃ text, m.2 = .text (some text)) ∨ ∃ value, m.2 = .bool value

/-! ## Calls -/

inductive Call where
  | setText (name text : String)
  | setBool (name : String) (value : Bool)
  | remove (name : String)
  /-- The settings are read from their file again. -/
  | reopen
  deriving DecidableEq

def call (s : Settings) (d : Disk) : Call → Settings × Disk
  | .setText name text => s.setText d name text
  | .setBool name value => s.setBool d name value
  | .remove name => s.remove d name
  | .reopen =>
    match s.file with
    | some file => (openFile d file, d)
    | none => (s, d)

def calls (s : Settings) (d : Disk) (cs : List Call) : Settings × Disk :=
  cs.foldl (fun w c => w.1.call w.2 c) (s, d)

theorem calls_cons (s : Settings) (d : Disk) (c : Call) (cs : List Call) :
    s.calls d (c :: cs) = (s.call d c).1.calls (s.call d c).2 cs := rfl

namespace Call

/-- The call writes the file, if there is one. -/
def writes (s : Settings) : Call → Bool
  | .setText _ _ => true
  | .setBool _ _ => true
  | .remove name => s.values.contains name
  | .reopen => false

def name? : Call → Option String
  | .setText name _ => some name
  | .setBool name _ => some name
  | .remove name => some name
  | .reopen => none

/-- What is known of the value of a name after the call: which text or truth value it is. -/
def answer (name : String) (before : Option (Option String × Option Bool)) :
    Call → Option (Option String × Option Bool)
  | .setText n text => if n = name then some (some text, none) else before
  | .setBool n value => if n = name then some (none, some value) else before
  | .remove n => if n = name then none else before
  | .reopen => before

theorem answer_of_name? {c : Call} {name : String} (h : c.name? ≠ some name)
    (before : Option (Option String × Option Bool)) : c.answer name before = before := by
  cases c with
  | reopen => rfl
  | _ => exact if_neg fun same => h (congrArg some same)

end Call

/-- What is known of the value of a name. -/
def answer (s : Settings) (name : String) : Option (Option String × Option Bool) :=
  (s.values.find? name).map Json.plain

/-- Whenever a call writes the file, the file can be written. -/
def Writable (s : Settings) (d : Disk) : List Call → Prop
  | [] => True
  | c :: cs => (c.writes s = true → ((s.call d c).1.saved? d).isOk = true) ∧
      (s.call d c).1.Writable (s.call d c).2 cs

variable {s : Settings} {d : Disk} {file : Path} {name : String} {c : Call} {cs : List Call}

theorem answer_set (s : Settings) (d : Disk) (n : String) (value : Json) (name : String) :
    (s.set d n value).1.answer name = if n = name then some value.plain else s.answer name := by
  unfold answer
  rw [find?_set]
  split <;> rfl

theorem answer_remove (s : Settings) (d : Disk) (n name : String) :
    (s.remove d n).1.answer name = if n = name then none else s.answer name := by
  unfold remove answer
  split
  · rw [Dictionary.find?_erase]
    split <;> rfl
  · next missing =>
    split
    · next same =>
      rw [same, Dictionary.contains, Option.not_isSome_iff_eq_none] at missing
      rw [missing]
      rfl
    · rfl

theorem answer_call (h : c ≠ .reopen) (s : Settings) (d : Disk) (name : String) :
    (s.call d c).1.answer name = c.answer name (s.answer name) := by
  cases c with
  | setText n text => exact answer_set s d n _ name
  | setBool n value => exact answer_set s d n _ name
  | remove n => exact answer_remove s d n name
  | reopen => exact absurd rfl h

theorem call_of_not_writes (h : c.writes s = false) (d : Disk) :
    (s.call d c).2 = d ∧ (c = .reopen ∨ (s.call d c).1 = s) := by
  cases c with
  | setText n text => cases h
  | setBool n value => cases h
  | remove n =>
    have hcontains : ¬ s.values.contains n = true := by simpa [Call.writes] using h
    have hcall : s.call d (.remove n) = (s, d) := if_neg hcontains
    rw [hcall]
    exact ⟨rfl, .inr rfl⟩
  | reopen =>
    unfold call
    cases s.file <;> exact ⟨rfl, .inl rfl⟩

theorem call_of_writes (h : c.writes s = true) (stable : Stable s.values) (d : Disk) :
    Stable (s.call d c).1.values ∧ (s.call d c).1.file = s.file ∧
      (s.call d c).2 = (s.call d c).1.save d := by
  cases c with
  | setText n text => exact ⟨stable.insert n (.text _ text), rfl, rfl⟩
  | setBool n value => exact ⟨stable.insert n (.bool _ value), rfl, rfl⟩
  | remove n =>
    have hcall : s.call d (.remove n) =
        (⟨s.values.erase n, s.file⟩, save ⟨s.values.erase n, s.file⟩ d) := if_pos h
    rw [hcall]
    refine ⟨⟨stable.ascending.erase n, ?_⟩, rfl, rfl⟩
    intro e he
    exact stable.settled e (List.mem_of_mem_filter he)
  | reopen => cases h

theorem keptIn_call_of_writes (place : s.file = some file) (stable : Stable s.values)
    (h : c.writes s = true) (writable : ((s.call d c).1.saved? d).isOk = true) :
    (s.call d c).1.KeptIn (s.call d c).2 file := by
  obtain ⟨hstable, hfile, hdisk⟩ := call_of_writes h stable d
  rw [hdisk]
  cases hsave : (s.call d c).1.saved? d with
  | error cause =>
    rw [hsave] at writable
    cases writable
  | ok d' =>
    rw [save_of_saved? hsave]
    exact keptIn_of_saved? (hfile.trans place) hstable hsave

theorem KeptIn.call (h : s.KeptIn d file)
    (writable : c.writes s = true → ((s.call d c).1.saved? d).isOk = true) :
    (s.call d c).1.KeptIn (s.call d c).2 file := by
  cases hwrites : c.writes s with
  | true => exact keptIn_call_of_writes h.place h.stable hwrites (writable hwrites)
  | false =>
    obtain ⟨hdisk, hsame⟩ := call_of_not_writes hwrites d
    rw [hdisk]
    rcases hsame with rfl | hsame
    · unfold Settings.call
      rw [h.place]
      exact keptIn_openFile d file
    · rw [hsame]
      exact h

theorem KeptIn.answer_call (h : s.KeptIn d file) (c : Call) (name : String) :
    (s.call d c).1.answer name = c.answer name (s.answer name) := by
  by_cases hreopen : c = .reopen
  · subst hreopen
    unfold Settings.call
    rw [h.place]
    exact h.agree name
  · exact Settings.answer_call hreopen s d name

/-! ## Runs -/

theorem KeptIn.calls (h : s.KeptIn d file) (writable : s.Writable d cs) :
    (s.calls d cs).1.KeptIn (s.calls d cs).2 file := by
  induction cs generalizing s d with
  | nil => exact h
  | cons c cs ih => exact ih (h.call writable.1) writable.2

theorem KeptIn.answer_calls (h : s.KeptIn d file) (writable : s.Writable d cs) (name : String) :
    (s.calls d cs).1.answer name = cs.foldl (Call.answer name) (s.answer name) := by
  induction cs generalizing s d with
  | nil => rfl
  | cons c cs ih => rw [calls_cons, ih (h.call writable.1) writable.2, h.answer_call, List.foldl_cons]

theorem answer_calls_filter (s : Settings) (d : Disk) (cs : List Call) (name : String) :
    (s.calls d (cs.filter (· ≠ .reopen))).1.answer name =
      cs.foldl (Call.answer name) (s.answer name) := by
  induction cs generalizing s d with
  | nil => rfl
  | cons c cs ih =>
    by_cases hreopen : c = .reopen
    · subst hreopen
      rw [List.filter_cons_of_neg (by simp), ih]
      rfl
    · rw [List.filter_cons_of_pos (by simpa using hreopen), calls_cons, ih, answer_call hreopen]
      rfl

theorem foldl_answer_of_name? (h : ∀ c ∈ cs, c.name? ≠ some name)
    (before : Option (Option String × Option Bool)) :
    cs.foldl (Call.answer name) before = before := by
  induction cs with
  | nil => rfl
  | cons c cs ih =>
    obtain ⟨hc, hcs⟩ := List.forall_mem_cons.mp h
    rw [List.foldl_cons, Call.answer_of_name? hc, ih hcs]

theorem texts_eq_of_answer {s s' : Settings} (h : s.answer name = s'.answer name) :
    s.text? name = s'.text? name ∧ s.bool? name = s'.bool? name := by
  unfold answer at h
  rw [text?_eq, text?_eq, bool?_eq, bool?_eq, h]
  exact ⟨rfl, rfl⟩

/-! ## Texts and truth values -/

theorem mem_of_findIn {entries : List (String × Json)} {value : Json}
    (h : Dictionary.findIn name entries = some value) : (name, value) ∈ entries := by
  induction entries with
  | nil => cases h
  | cons e rest ih =>
    obtain ⟨n, v⟩ := e
    unfold Dictionary.findIn at h
    split at h
    · next same =>
      cases h
      rw [same]
      exact List.mem_cons_self
    · exact List.mem_cons_of_mem _ (ih h)

theorem eq_of_plain {v w : Json} (h : (∃ text, v = .text (some text)) ∨ ∃ value, v = .bool value)
    (same : w.plain = v.plain) : w = v := by
  rcases h with ⟨text, rfl⟩ | ⟨value, rfl⟩
  · cases w with
    | text t =>
      have htext : t = some text := congrArg Prod.fst same
      rw [htext]
    | _ => cases congrArg Prod.fst same
  · cases w with
    | bool b =>
      have hbool : some b = some value := congrArg Prod.snd same
      rw [Option.some.inj hbool]
    | _ => cases congrArg Prod.snd same

theorem find?_of_holdsPlain (h : HoldsPlain d file)
    (same : s.answer name = (openFile d file).answer name) :
    s.values.find? name = (openFile d file).values.find? name := by
  obtain ⟨text, members, hread, hrecord, hplain⟩ := h
  have hvalues : (openFile d file).values = .ofList
      (members.filterMap fun m => m.1.map (·, m.2)) := by
    unfold openFile
    rw [hread]
    simp only [valuesOf, hrecord]
  unfold answer at same
  cases hfound : (openFile d file).values.find? name with
  | none =>
    rw [hfound] at same
    exact Option.map_eq_none_iff.mp same
  | some v =>
    rw [hfound] at same
    obtain ⟨w, hw, hsame⟩ := Option.map_eq_some_iff.mp same
    rw [hvalues] at hfound
    obtain ⟨m, hm, hentry⟩ :=
      List.mem_filterMap.mp (Dictionary.mem_of_mem_ofList (mem_of_findIn hfound))
    obtain ⟨_, -, hpair⟩ := Option.map_eq_some_iff.mp hentry
    have hvalue : m.2 = v := congrArg Prod.snd hpair
    have hmember := hplain m hm
    rw [hvalue] at hmember
    rw [hw, eq_of_plain hmember hsame]

/-- Settings that start from a file with nothing to read answer as settings in memory do that are never
read again. What a file of texts and truth values holds at first, and is neither set nor removed, is
kept. -/
theorem file_answers_as_memory (d d' : Disk) (file : Path) (cs : List Call)
    (writable : (openFile d file).Writable d cs) :
    let s := ((openFile d file).calls d cs).1
    let m := (memory.calls d' (cs.filter (· ≠ .reopen))).1
    (StartsEmpty d file → ∀ name, s.text? name = m.text? name ∧ s.bool? name = m.bool? name) ∧
      (HoldsPlain d file → ∀ name, (∀ c ∈ cs, c.name? ≠ some name) →
        s.values.find? name = (openFile d file).values.find? name) := by
  intro s m
  have hanswer := (keptIn_openFile d file).answer_calls writable
  refine ⟨?_, ?_⟩
  · intro empty name
    apply texts_eq_of_answer
    rw [hanswer, answer_calls_filter]
    unfold answer
    rw [values_openFile_of_startsEmpty empty]
    rfl
  · intro plain name untouched
    apply find?_of_holdsPlain plain
    rw [hanswer, foldl_answer_of_name? untouched]

theorem file_answers_as_memory_after_writing :
    let file : Path := ⟨"settings.json"⟩
    let disk (written : String) : Disk :=
      ⟨[(["settings.json"], .file (Text.Utf8.encode written.toList) false)], []⟩
    let broken := disk "[1, 2"
    let full := disk "\x7b\"zoom\": true, \"≠\": \"on\"\x7d"
    let cs : List Call := [.setText "a" "≤", .reopen, .setBool "a" true, .remove "zoom", .reopen]
    (openFile broken file).Writable broken cs ∧ (openFile full file).Writable full cs ∧
      (∀ name, ((openFile broken file).calls broken cs).1.bool? name =
        (memory.calls default (cs.filter (· ≠ .reopen))).1.bool? name) ∧
      ((openFile full file).calls full cs).1.values.find? "≠" =
        (openFile full file).values.find? "≠" := by
  intro file disk broken full cs
  have hbroken : (openFile broken file).Writable broken cs :=
    ⟨fun _ => by decide +kernel, nofun, fun _ => by decide +kernel, fun h => absurd h (by decide +kernel),
      nofun, trivial⟩
  have hfull : (openFile full file).Writable full cs :=
    ⟨fun _ => by decide +kernel, nofun, fun _ => by decide +kernel, fun _ => by decide +kernel,
      nofun, trivial⟩
  have empty : StartsEmpty broken file := by
    apply StartsEmpty.malformed "[1, 2".toList
    · decide +kernel
    · rw [show Json.parse? "[1, 2".toList = none by decide +kernel]
      exact fun members => nofun
  have plain : HoldsPlain full file := by
    refine ⟨"\x7b\"zoom\": true, \"≠\": \"on\"\x7d".toList,
      [(some "zoom", .bool true), (some "≠", .text (some "on"))], ?_, rfl, by simp⟩
    decide +kernel
  obtain ⟨hsame, -⟩ := file_answers_as_memory broken default file cs hbroken
  obtain ⟨-, hkept⟩ := file_answers_as_memory full default file cs hfull
  exact ⟨hbroken, hfull, fun name => (hsame empty name).2, hkept plain "≠" (by decide)⟩

end Settings

end CodeEditor
