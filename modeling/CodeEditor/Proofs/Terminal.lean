import CodeEditor.Terminal
import CodeEditor.Proofs.StyledText
import CodeEditor.Proofs.Text.Parts

/-! # What a terminal shows

A terminal that knows the three sequences in use reads the output from left to right. It shows the text
itself, each character in the style of its run, and no style is on at the end of a line.
-/

namespace CodeEditor

namespace Terminal

/-! ## The terminal -/

/-- The style in which characters are shown. -/
structure Pen where
  /-- Red, green and blue. -/
  color : Option (Nat × Nat × Nat)
  bold : Bool
  deriving DecidableEq

/-- No style is on. -/
def Pen.cleared : Pen := ⟨none, false⟩

/-- The pen for text with some attributes. -/
def Pen.of (a : Attributes) : Pen where
  color := some (a.foreground.red.toNat, a.foreground.green.toNat, a.foreground.blue.toNat)
  bold := Weight.bold.rank ≤ a.font.weight.rank

/-- Reads numbers between semicolons. The digits read so far have written `number`. -/
def readNumbers (number : Nat) : List Char → List Nat × List Char
  | [] => ([number], [])
  | c :: cs =>
    if c.isDigit then readNumbers (10 * number + (c.toNat - '0'.toNat)) cs
    else if c = ';' then
      let (numbers, rest) := readNumbers 0 cs
      (number :: numbers, rest)
    else ([number], c :: cs)

/-- What a sequence with these numbers does to the pen. -/
def order? : List Nat → Option (Pen → Pen)
  | [0] => some fun _ => .cleared
  | [1] => some fun pen => { pen with bold := true }
  | [38, 2, red, green, blue] => some fun pen => { pen with color := some (red, green, blue) }
  | _ => none

/-- Reads a sequence at the front of the output. -/
def readOrder? : List Char → Option ((Pen → Pen) × List Char)
  | '\x1b' :: '[' :: output =>
    match readNumbers 0 output with
    | (numbers, 'm' :: rest) => (order? numbers).map fun order => (order, rest)
    | _ => none
  | _ => none

theorem length_readNumbers_le (number : Nat) (output : List Char) :
    (readNumbers number output).2.length ≤ output.length := by
  induction output generalizing number with
  | nil => simp [readNumbers]
  | cons c cs ih =>
    unfold readNumbers
    split
    · exact Nat.le_succ_of_le (ih _)
    · split
      · exact Nat.le_succ_of_le (ih 0)
      · simp

theorem length_lt_of_readOrder? {output rest : List Char} {order : Pen → Pen}
    (h : readOrder? output = some (order, rest)) : rest.length < output.length := by
  unfold readOrder? at h
  split at h
  · next output =>
    have hle := length_readNumbers_le 0 output
    split at h
    · next numbers left hread =>
      rw [hread] at hle
      obtain ⟨_, -, hrest⟩ := Option.map_eq_some_iff.mp h
      obtain rfl : left = rest := congrArg Prod.snd hrest
      simp only [List.length_cons] at *
      omega
    · cases h
  · cases h

/-- The characters that are shown, each with its pen, and the pen in the end. What is not a known
sequence is shown. -/
def interpret (pen : Pen) (output : List Char) : List (Char × Pen) × Pen :=
  match output with
  | [] => ([], pen)
  | c :: cs =>
    match h : readOrder? (c :: cs) with
    | some (order, rest) =>
      have := length_lt_of_readOrder? h
      interpret (order pen) rest
    | none =>
      let (shown, last) := interpret pen cs
      ((c, pen) :: shown, last)
termination_by output.length
decreasing_by
  · exact this
  · exact Nat.lt_succ_self cs.length

theorem interpret_of_order {output rest : List Char} {order : Pen → Pen}
    (h : readOrder? output = some (order, rest)) (pen : Pen) :
    interpret pen output = interpret (order pen) rest := by
  cases output with
  | nil => cases h
  | cons c cs =>
    rw [interpret]
    split
    · next hsome =>
      rw [h] at hsome
      cases hsome
      rfl
    · next hnone =>
      rw [h] at hnone
      cases hnone

theorem interpret_of_char {c : Char} {cs : List Char} (h : readOrder? (c :: cs) = none) (pen : Pen) :
    interpret pen (c :: cs) = ((c, pen) :: (interpret pen cs).1, (interpret pen cs).2) := by
  rw [interpret]
  split
  · next hsome =>
    rw [h] at hsome
    cases hsome
  · rfl

/-! ## Reading sequences -/

theorem text_ofNat (n : Nat) : (Number.Numeral.ofNat n).text = Nat.toDigits 10 n := by
  have hdigit : ∀ c ∈ Nat.toDigits 10 n, Number.digitChar (Number.digitValue c) = c := by
    intro c hc
    have hbounds := Nat.isDigit_of_mem_toDigits (by decide) (by decide) hc
    simp only [Char.isDigit, Bool.and_eq_true, decide_eq_true_eq, UInt32.le_iff_toNat_le] at hbounds
    have hvalue : '0'.toNat + (c.toNat - '0'.toNat) = c.toNat :=
      Nat.add_sub_cancel' hbounds.1
    rw [Number.digitChar, Number.digitValue, hvalue, Char.ofNat_toNat]
  have hmap := List.map_congr_left hdigit
  simpa [Function.comp_def, Number.Numeral.text, Number.Numeral.ofNat, Number.Decimal.digitsOf]
    using hmap

theorem readNumbers_digits (number : Nat) {digits : List Char} (rest : List Char)
    (h : ∀ c ∈ digits, c.isDigit = true) :
    readNumbers number (digits ++ rest) = readNumbers (Nat.ofDigitChars 10 digits number) rest := by
  induction digits generalizing number with
  | nil => rfl
  | cons c digits ih =>
    obtain ⟨hc, hdigits⟩ := List.forall_mem_cons.mp h
    rw [List.cons_append, readNumbers, if_pos hc, ih _ hdigits, Nat.ofDigitChars_cons]

theorem readNumbers_text (n : Nat) (rest : List Char) :
    readNumbers 0 ((Number.Numeral.ofNat n).text ++ rest) = readNumbers n rest := by
  have hdigits : ∀ c ∈ Nat.toDigits 10 n, c.isDigit = true := fun c hc =>
    Nat.isDigit_of_mem_toDigits (by decide) (by decide) hc
  rw [text_ofNat, readNumbers_digits 0 rest hdigits,
    Nat.ofDigitChars_toDigits (by decide) (by decide)]

theorem readNumbers_intersperse (n : Nat) (ns : List Nat) (rest : List Char) :
    let parts := (n :: ns).map fun n => (Number.Numeral.ofNat n).text
    readNumbers 0 ((parts.intersperse [';']).flatten ++ 'm' :: rest) = (n :: ns, 'm' :: rest) := by
  induction ns generalizing n with
  | nil => simp [readNumbers_text, readNumbers]
  | cons next ns ih =>
    intro parts
    have hjoin : (parts.intersperse [';']).flatten ++ 'm' :: rest =
        (Number.Numeral.ofNat n).text ++ ';' ::
          ((((next :: ns).map fun n => (Number.Numeral.ofNat n).text).intersperse [';']).flatten ++
            'm' :: rest) := by
      simp [parts]
    rw [hjoin, readNumbers_text, readNumbers, if_neg (by decide), if_pos rfl, ih next]

theorem readOrder?_sequence {numbers : List Nat} {order : Pen → Pen} (h : order? numbers = some order)
    (rest : List Char) : readOrder? (sequence numbers ++ rest) = some (order, rest) := by
  cases numbers with
  | nil => simp [order?] at h
  | cons n ns =>
    have hread := readNumbers_intersperse n ns rest
    simp only [sequence, escapeChar, List.cons_append, List.append_assoc, List.nil_append] at hread ⊢
    show (match readNumbers 0 _ with
      | (numbers, 'm' :: rest) => (order? numbers).map fun order => (order, rest)
      | _ => none) = _
    rw [hread]
    simp [h]

/-! ## Reading stretches of output -/

/-- Whatever comes after, some output shows these characters and changes the pen. -/
def Draws (pen : Pen) (output : List Char) (shown : List (Char × Pen)) (last : Pen) : Prop :=
  ∀ rest, interpret pen (output ++ rest) =
    (shown ++ (interpret last rest).1, (interpret last rest).2)

variable {pen middle last : Pen} {output more : List Char} {shown others : List (Char × Pen)}

theorem Draws.interpret_eq (h : Draws pen output shown last) :
    interpret pen output = (shown, last) := by
  have hend := h []
  simpa [interpret] using hend

theorem draws_nil (pen : Pen) : Draws pen [] [] pen := fun _ => rfl

theorem Draws.append (h : Draws pen output shown middle) (h' : Draws middle more others last) :
    Draws pen (output ++ more) (shown ++ others) last := by
  intro rest
  rw [List.append_assoc, h, h', List.append_assoc]

theorem draws_sequence {numbers : List Nat} {order : Pen → Pen} (h : order? numbers = some order)
    (pen : Pen) : Draws pen (sequence numbers) [] (order pen) := fun rest =>
  interpret_of_order (readOrder?_sequence h rest) pen

theorem draws_reset (pen : Pen) : Draws pen reset [] .cleared := by
  have horder : order? [0] = some fun _ => .cleared := rfl
  exact draws_sequence horder pen

theorem draws_bold (pen : Pen) : Draws pen bold [] { pen with bold := true } := by
  have horder : order? [1] = some fun pen => { pen with bold := true } := rfl
  exact draws_sequence horder pen

theorem draws_foreground (c : Color) (pen : Pen) :
    Draws pen (foreground c) []
      { pen with color := some (c.red.toNat, c.green.toNat, c.blue.toNat) } := by
  have horder : order? [38, 2, c.red.toNat, c.green.toNat, c.blue.toNat] =
      some fun pen => { pen with color := some (c.red.toNat, c.green.toNat, c.blue.toNat) } := rfl
  exact draws_sequence horder pen

theorem draws_char {c : Char} (h : c ≠ '\x1b') (pen : Pen) : Draws pen [c] [(c, pen)] pen := by
  intro rest
  have hread : readOrder? (c :: rest) = none := by
    unfold readOrder?
    split
    · next heq => exact absurd (List.cons.inj heq).1 h
    · rfl
  exact interpret_of_char hread pen

theorem draws_text {text : List Char} (h : '\x1b' ∉ text) (pen : Pen) :
    Draws pen text (text.map fun c => (c, pen)) pen := by
  induction text with
  | nil => exact draws_nil pen
  | cons c cs ih =>
    simp only [List.mem_cons, not_or] at h
    exact (draws_char (Ne.symm h.1) pen).append (ih h.2)

/-! ## Reading a rendered text -/

/-- The pen with which a character of a run is to be shown. -/
def shade (a : Attributes) (c : Char) : Char × Pen := (c, if c = '\n' then .cleared else .of a)

theorem map_shade {a : Attributes} {text : List Char} (h : '\n' ∉ text) :
    text.map (shade a) = text.map fun c => (c, Pen.of a) := by
  refine List.map_congr_left fun c hc => ?_
  rw [shade, if_neg]
  rintro rfl
  exact h hc

theorem draws_style (a : Attributes) :
    Draws .cleared ((if a.font.weight.isBold then bold else []) ++ foreground a.foreground) []
      (.of a) := by
  have hweight : Draws .cleared (if a.font.weight.isBold then bold else []) []
      ⟨none, a.font.weight.isBold⟩ := by
    cases a.font.weight.isBold with
    | false => exact draws_nil .cleared
    | true => exact draws_bold .cleared
  exact hweight.append (draws_foreground a.foreground _)

theorem draws_segment {a : Attributes} {text : List Char} (hescape : '\x1b' ∉ text)
    (hline : '\n' ∉ text) : Draws .cleared (segment a text) (text.map (shade a)) .cleared := by
  unfold segment
  cases text with
  | nil => exact draws_nil .cleared
  | cons c cs =>
    rw [if_neg (by simp), map_shade hline]
    -- The style is turned on before the text and off behind it, so it starts and ends cleared.
    have hstyled := (draws_style a).append (draws_text hescape (Pen.of a))
    simpa using hstyled.append (draws_reset (Pen.of a))

theorem draws_segments {a : Attributes} {parts : List (List Char)}
    (hescape : '\x1b' ∉ (parts.intersperse ['\n']).flatten)
    (hline : ∀ part ∈ parts, '\n' ∉ part) :
    Draws .cleared ((parts.map (segment a)).intersperse ['\n']).flatten
      ((parts.intersperse ['\n']).flatten.map (shade a)) .cleared := by
  induction parts with
  | nil => exact draws_nil .cleared
  | cons part parts ih =>
    obtain ⟨hpart, hparts⟩ := List.forall_mem_cons.mp hline
    cases parts with
    | nil =>
      simp only [List.intersperse_singleton, List.flatten_singleton] at hescape
      simpa using draws_segment (a := a) hescape hpart
    | cons next parts =>
      simp only [List.intersperse_cons_cons, List.flatten_cons, List.mem_append, not_or] at hescape
      have hsegment := draws_segment (a := a) hescape.1 hpart
      have hbreak := draws_char (c := '\n') (by decide) .cleared
      simpa [shade] using (hsegment.append hbreak).append (ih hescape.2.2 hparts)

theorem draws_run (a : Attributes) {text : List Char} (h : '\x1b' ∉ text) :
    Draws .cleared (run a text) (text.map (shade a)) .cleared := by
  have hparts : '\x1b' ∉ ((Text.split '\n' text).intersperse ['\n']).flatten := by
    rwa [Text.flatten_split]
  have hdraws := draws_segments (a := a) hparts fun part => Text.not_mem_split '\n' text part
  rwa [Text.flatten_split] at hdraws

/-- The characters shown are those of a text from the byte `start` on, each with the pen for the run
around it, or with none when it ends a line. -/
structure ShownAs (start : Nat) (text : List Char) (spans : List (Span × Attributes))
    (shown : List (Char × Pen)) : Prop where
  characters : shown.map (·.1) = text
  pens : ∀ index c pen, shown[index]? = some (c, pen) →
    if c = '\n' then pen = .cleared
    else ∃ s ∈ spans, s.1.start ≤ start + Text.byteOffset text index ∧
      start + Text.byteOffset text (index + 1) ≤ s.1.stop ∧ pen = .of s.2

theorem exists_draws_runs {text : List Char} {rs : List Run} (covers : Run.Covers text rs)
    (start : Nat) (h : '\x1b' ∉ text) :
    ∃ shown, Draws .cleared (runs rs text) shown .cleared ∧
      ShownAs start text (Run.located start rs) shown := by
  induction covers generalizing start with
  | nil => exact ⟨[], draws_nil .cleared, rfl, by simp⟩
  | @cons piece text r rs filled length rest ih =>
    simp only [List.mem_append, not_or] at h
    obtain ⟨shown, hdraws, hcharacters, hpens⟩ := ih (start + r.length) h.2
    refine ⟨piece.map (shade r.attributes) ++ shown, ?_, ?_, ?_⟩
    · rw [runs, length, Text.splitAtByte_byteLength]
      exact (draws_run r.attributes h.1).append hdraws
    · simp [hcharacters, shade, Function.comp_def]
    · intro index c pen hat
      rw [Run.located]
      rcases Nat.lt_or_ge index piece.length with hinside | hpast
      · -- The character lies in the first run.
        rw [List.getElem?_append_left (by simpa using hinside), List.getElem?_map,
          List.getElem?_eq_getElem hinside] at hat
        obtain ⟨rfl, rfl⟩ := Prod.mk.inj (Option.some.inj hat)
        split
        · rfl
        · refine ⟨_, List.mem_cons_self, Nat.le_add_right _ _, ?_, rfl⟩
          rw [Text.byteOffset_append text hinside, length]
          exact Nat.add_le_add_left (Text.byteOffset_le piece _) start
      · obtain ⟨later, rfl⟩ := Nat.exists_eq_add_of_le hpast
        rw [List.getElem?_append_right (by simp)] at hat
        simp only [List.length_map, Nat.add_sub_cancel_left] at hat
        have hpen := hpens later c pen hat
        split at hpen
        · next hbreak => rwa [if_pos hbreak]
        · next hchar =>
          obtain ⟨s, hs, hstart, hstop, hof⟩ := hpen
          rw [if_neg hchar, Nat.add_assoc, Text.byteOffset_append_add, Text.byteOffset_append_add,
            ← length, ← Nat.add_assoc, ← Nat.add_assoc]
          exact ⟨s, List.mem_cons_of_mem _ hs, hstart, hstop, hof⟩

/-- After any operations, what is rendered is shown as the text in its styles. -/
theorem rendering_reads_back (text : List Char) (a : Attributes)
    (operations : List StyledText.Operation) :
    let t := (StyledText.plain text a).applyAll operations
    '\x1b' ∉ t.text →
      ShownAs 0 t.text t.spans (interpret .cleared (render t)).1 ∧
        (interpret .cleared (render t)).2 = .cleared := by
  intro t h
  have hsound := StyledText.sound_applyAll (StyledText.sound_plain text a) operations
  obtain ⟨shown, hdraws, hshown⟩ := exists_draws_runs hsound.covers 0 h
  have hread : interpret .cleared (render t) = (shown, .cleared) := hdraws.interpret_eq
  rw [hread]
  exact ⟨hshown, rfl⟩

theorem rendering_reads_back_two_lines :
    let t := (StyledText.plain ['I', 'F', '\n', '≠', 'x'] .standard).applyAll
      [.batch [Restyle.bold ⟨1, 6⟩, Restyle.foreground ⟨0, 2⟩ (Color.rgb 1 2 3)] true]
    '\x1b' ∉ t.text ∧ ShownAs 0 t.text t.spans (interpret .cleared (render t)).1 ∧
      (interpret .cleared (render t)).2 = .cleared := by
  intro t
  have h : '\x1b' ∉ t.text := by decide
  exact ⟨h, rendering_reads_back _ _ _ h⟩

end Terminal

end CodeEditor
