import CodeEditor.Proofs.Lines

/-! # Lines of texts put together

Where two texts meet, the last line of the one and the first line of the other become one line. It is
different when a return meets a feed: then the two end a line together.
-/

namespace CodeEditor

namespace Text

variable {front back : List Char} {before after : List (List Char)} {last first : List Char}

/-- A return at the end of the one text meets a feed at the start of the other. -/
def ReturnMeetsFeed (front back : List Char) : Prop :=
  front.getLast? = some '\r' ∧ back.head? = some '\n'

theorem lines_append (hfront : lines front = before ++ [last]) (hback : lines back = first :: after)
    (apart : ¬ ReturnMeetsFeed front back) :
    lines (front ++ back) = before ++ (last ++ first) :: after := by
  induction front generalizing before last with
  | nil =>
    obtain ⟨rfl, rfl⟩ : before = [] ∧ last = [] := by
      cases before <;> simp_all [lines]
    exact hback
  | cons c cs ih =>
    have hnext : breaksAfter c (cs ++ back).head? = breaksAfter c cs.head? := by
      cases cs with
      | nil =>
        by_cases hreturn : c = '\r'
        · have hfeed : back.head? ≠ some '\n' := fun hfeed => apart ⟨by rw [hreturn]; rfl, hfeed⟩
          simp [breaksAfter, hfeed]
        · simp [breaksAfter, hreturn]
      | cons d ds => rfl
    have hrest : ¬ ReturnMeetsFeed cs back := by
      rintro ⟨hreturn, hfeed⟩
      exact apart ⟨by rw [List.getLast?_cons, hreturn]; rfl, hfeed⟩
    rw [lines] at hfront
    rw [List.cons_append, lines, hnext]
    split at hfront
    · next hbreak =>
      rw [if_pos hbreak]
      cases before with
      | nil => exact absurd (List.cons.inj hfront).2 (lines_ne_nil cs)
      | cons b bs =>
        obtain ⟨rfl, hlines⟩ := List.cons.inj hfront
        rw [ih hlines hrest]
        rfl
    · next hbreak =>
      rw [if_neg hbreak]
      split at hfront
      · next hnil => exact absurd hnil (lines_ne_nil cs)
      · next l ls hlines =>
        cases before with
        | nil =>
          obtain ⟨rfl, rfl⟩ := List.cons.inj hfront
          rw [@ih [] l hlines hrest]
          rfl
        | cons b bs =>
          obtain ⟨rfl, rfl⟩ := List.cons.inj hfront
          rw [@ih (l :: bs) last hlines hrest]
          rfl

theorem exists_last_line (text : List Char) : ∃ before last, lines text = before ++ [last] := by
  rcases List.eq_nil_or_concat (lines text) with h | ⟨before, last, h⟩
  · exact absurd h (lines_ne_nil text)
  · exact ⟨before, last, by rw [h, List.concat_eq_append]⟩

theorem exists_first_line (text : List Char) : ∃ first after, lines text = first :: after :=
  List.exists_cons_of_ne_nil (lines_ne_nil text)

theorem getLast?_ne_of_plain {text : List Char} {c : Char} (plain : ∀ c ∈ text, isLineEnd c = false)
    (ends : isLineEnd c = true) : text.getLast? ≠ some c := by
  intro hlast
  rw [plain c (List.mem_of_getLast? hlast)] at ends
  cases ends

theorem lines_of_plain {text : List Char} (plain : ∀ c ∈ text, isLineEnd c = false) :
    lines text = [text] := by
  induction text with
  | nil => rfl
  | cons c cs ih =>
    rw [List.forall_mem_cons] at plain
    have hbreak : breaksAfter c cs.head? = false := by simp [breaksAfter, plain.1]
    simp [lines, hbreak, ih plain.2]

/-! ## A feed at the end -/

theorem lines_feed (h : lines front = before ++ [last]) (apart : front.getLast? ≠ some '\r') :
    lines (front ++ ['\n']) = before ++ [last ++ ['\n'], []] :=
  lines_append h (show lines ['\n'] = ['\n'] :: [[]] from rfl) fun meets => apart meets.1

theorem lines_return (h : lines front = before ++ [last]) :
    lines (front ++ ['\r']) = before ++ [last ++ ['\r'], []] :=
  lines_append h (show lines ['\r'] = ['\r'] :: [[]] from rfl) fun meets => by cases meets.2

theorem lines_return_feed (h : lines front = before ++ [last]) :
    lines (front ++ ['\r', '\n']) = before ++ [last ++ ['\r', '\n'], []] :=
  lines_append h (show lines ['\r', '\n'] = ['\r', '\n'] :: [[]] from rfl) fun meets => by
    cases meets.2

theorem withoutFeed_feed {line : List Char} (h : line.getLast? ≠ some '\r') :
    withoutFeed (line ++ ['\n']) = line := by
  have hlength : feedLength (line ++ ['\n']) = 1 := by
    rcases List.eq_nil_or_concat line with rfl | ⟨init, d, rfl⟩
    · rfl
    · have hd : d ≠ '\r' := by simpa using h
      rw [List.concat_eq_append, List.append_assoc, List.singleton_append, feedLength_concat, if_pos rfl,
        if_neg hd]
  rw [withoutFeed, hlength, List.length_append, List.length_singleton, Nat.add_sub_cancel,
    List.take_left]

theorem feedLength_append_le {text line : List Char} (plain : ∀ c ∈ text, isLineEnd c = false) :
    feedLength (text ++ line) ≤ line.length := by
  have hfeed : text.getLast? ≠ some '\n' := getLast?_ne_of_plain plain (by decide)
  have hreturn : text.getLast? ≠ some '\r' := getLast?_ne_of_plain plain (by decide)
  rcases List.eq_nil_or_concat line with rfl | ⟨init, c, rfl⟩
  · rcases List.eq_nil_or_concat text with rfl | ⟨start, d, rfl⟩
    · exact Nat.zero_le _
    · rw [List.concat_eq_append, List.getLast?_concat, Ne, Option.some_inj] at hfeed hreturn
      rw [List.append_nil, List.concat_eq_append]
      unfold feedLength
      simp [hfeed, hreturn]
  · rcases List.eq_nil_or_concat init with rfl | ⟨init, e, rfl⟩
    · rcases List.eq_nil_or_concat text with rfl | ⟨start, d, rfl⟩
      · rw [List.concat_nil, List.nil_append, feedLength_singleton]
        split <;> simp
      · rw [List.concat_eq_append, List.getLast?_concat, Ne, Option.some_inj] at hreturn
        rw [List.concat_nil, List.concat_eq_append, List.append_assoc, List.singleton_append,
          feedLength_concat, if_neg hreturn]
        split
        · simp
        · split <;> simp
    · simp only [List.concat_eq_append, List.append_assoc, List.singleton_append]
      rw [← List.append_assoc, feedLength_concat]
      simp only [List.length_append, List.length_cons, List.length_nil]
      split
      · split <;> omega
      · split <;> omega

/-! ## A feed between two texts -/

/-- A return stands before the place, and no feed to go with it behind it. -/
def LoneReturn (front back : List Char) : Prop :=
  front.getLast? = some '\r' ∧ back.head? ≠ some '\n'

instance (front back : List Char) : Decidable (LoneReturn front back) :=
  inferInstanceAs (Decidable (_ ∧ _))

theorem lines_opened {ended : List (List Char)} {indent : List Char}
    (hended : lines (front ++ ['\n']) = ended ++ [[]]) (hback : lines back = first :: after)
    (plain : ∀ c ∈ indent, isLineEnd c = false) :
    lines (front ++ '\n' :: indent ++ back) = ended ++ (indent ++ first) :: after := by
  have hapart : ¬ ReturnMeetsFeed indent back := fun meets =>
    getLast?_ne_of_plain plain (by decide) meets.1
  have hplain : lines indent = [] ++ [indent] := lines_of_plain plain
  have hindent : lines (indent ++ back) = (indent ++ first) :: after :=
    lines_append hplain hback hapart
  have htext : front ++ '\n' :: indent ++ back = (front ++ ['\n']) ++ (indent ++ back) := by simp
  have hfeed : ¬ ReturnMeetsFeed (front ++ ['\n']) (indent ++ back) := by
    rintro ⟨hreturn, -⟩
    simp at hreturn
  rw [htext, lines_append hended hindent hfeed, List.nil_append]

theorem ne_nil_of_lines {text : List Char} (h : lines text = first :: after) (more : after ≠ []) :
    first ≠ [] := by
  have hfirst : lines text = [] ++ first :: after := h
  obtain ⟨init, c, rfl, -⟩ := exists_end_of_lines hfirst more
  simp

end Text

namespace Buffer

open Text

variable {b b' : Buffer} {front back start indent : List Char} {before after : List (List Char)}
  {last first : List Char}

theorem lineColumn_behind (h : b.lines = before ++ (start ++ first) :: after)
    (more : after ≠ [] → first ≠ []) :
    (b.lineColumn (before.flatten.length + start.length)).1 = before.length ∧
      ((∀ c ∈ start, isLineEnd c = false) →
        b.lineColumn (before.flatten.length + start.length) = (before.length, start.length)) := by
  have hcolumn : after ≠ [] → start.length < (start ++ first).length := by
    intro hafter
    have := List.length_pos_iff.mpr (more hafter)
    simp only [List.length_append]
    omega
  have hlength := length_eq_of_lines h
  simp only [List.length_append] at hlength
  rw [lineColumn_eq h hcolumn (by omega), lineLength_eq h]
  refine ⟨rfl, ?_⟩
  intro plain
  have hfeed : feedLength (start ++ first) ≤ first.length := feedLength_append_le plain
  simp only [List.length_append]
  rw [Nat.min_eq_left (by omega)]

theorem length_of_lines {text : List Char} (h : Text.lines text = before ++ [last]) :
    text.length = before.flatten.length + last.length := by
  rw [← flatten_lines text, h]
  simp

theorem line_of_apart (htext : b.text = front ++ back) (hfront : Text.lines front = before ++ [last])
    (apart : ¬ ReturnMeetsFeed front back) :
    (b.lineColumn front.length).1 = before.length ∧
      b.lineCount = before.length + (Text.lines back).length := by
  obtain ⟨first, after, hback⟩ := exists_first_line back
  have hlines : b.lines = before ++ (last ++ first) :: after := by
    rw [lines, htext, lines_append hfront hback apart]
  rw [length_of_lines hfront, lineCount, hlines, hback]
  refine ⟨(lineColumn_behind hlines (ne_nil_of_lines hback)).1, ?_⟩
  simp

theorem line_of_pair {text rest : List Char} (htext : b.text = text ++ ['\r'] ++ '\n' :: rest)
    (hlast : Text.lines text = before ++ [last]) :
    (b.lineColumn (text ++ ['\r']).length).1 = before.length ∧
      b.lineCount = before.length + (Text.lines ('\n' :: rest)).length := by
  obtain ⟨first, after, hrest⟩ := exists_first_line rest
  have hpair : Text.lines (text ++ ['\r', '\n']) = (before ++ [last ++ ['\r', '\n']]) ++ [[]] := by
    simpa using lines_return_feed hlast
  have hapart : ¬ ReturnMeetsFeed (text ++ ['\r', '\n']) rest := by
    rintro ⟨hreturn, -⟩
    simp at hreturn
  have hlines : b.lines = before ++ ((last ++ ['\r']) ++ ['\n']) :: Text.lines rest := by
    rw [lines, show b.text = (text ++ ['\r', '\n']) ++ rest by simp [htext],
      lines_append hpair hrest hapart, hrest]
    simp
  have hposition : (text ++ ['\r']).length = before.flatten.length + (last ++ ['\r']).length := by
    simp only [List.length_append, length_of_lines hlast]
    omega
  have hline := (lineColumn_behind hlines fun _ => by simp).1
  rw [hposition, hline, lineCount, hlines]
  refine ⟨rfl, ?_⟩
  simp [Text.lines, breaksAfter, isLineEnd]

theorem exists_ended (htext : b.text = front ++ back) :
    ∃ ended, Text.lines (front ++ ['\n']) = ended ++ [[]] ∧
      ended.length = (b.lineColumn front.length).1 + (if LoneReturn front back then 0 else 1) ∧
      b.lineCount = (b.lineColumn front.length).1 + (Text.lines back).length := by
  by_cases hreturn : front.getLast? = some '\r'
  · obtain ⟨text, rfl⟩ := List.getLast?_eq_some_iff.mp hreturn
    obtain ⟨before, last, hlast⟩ := exists_last_line text
    refine ⟨before ++ [last ++ ['\r', '\n']], by simpa using lines_return_feed hlast, ?_⟩
    by_cases hfeed : back.head? = some '\n'
    · obtain ⟨rest, rfl⟩ := List.head?_eq_some_iff.mp hfeed
      obtain ⟨hline, hcount⟩ := line_of_pair htext hlast
      rw [hline, hcount, if_neg fun lone => lone.2 rfl]
      simp
    · have hapart : ¬ ReturnMeetsFeed (text ++ ['\r']) back := fun meets => hfeed meets.2
      have hfront : Text.lines (text ++ ['\r']) = before ++ [last ++ ['\r']] ++ [[]] := by
        simpa using lines_return hlast
      obtain ⟨hline, hcount⟩ := line_of_apart htext hfront hapart
      rw [hline, hcount, if_pos ⟨hreturn, hfeed⟩]
      simp
  · obtain ⟨before, last, hlast⟩ := exists_last_line front
    have hapart : ¬ ReturnMeetsFeed front back := fun meets => hreturn meets.1
    obtain ⟨hline, hcount⟩ := line_of_apart htext hlast hapart
    refine ⟨before ++ [last ++ ['\n']], by simpa using lines_feed hlast hreturn, ?_⟩
    rw [hline, hcount, if_neg fun lone => hreturn lone.1]
    simp

theorem opens_line (htext : b.text = front ++ back) (hopened : b'.text = front ++ '\n' :: indent ++ back)
    (plain : ∀ c ∈ indent, isLineEnd c = false) :
    b'.lineCount = b.lineCount + (if LoneReturn front back then 0 else 1) ∧
      b'.lineColumn (front.length + 1 + indent.length) =
        ((b.lineColumn front.length).1 + (if LoneReturn front back then 0 else 1),
          indent.length) := by
  obtain ⟨ended, hended, hline, hcount⟩ := exists_ended htext
  obtain ⟨first, after, hback⟩ := exists_first_line back
  have hlines : b'.lines = ended ++ (indent ++ first) :: after := by
    rw [lines, hopened, lines_opened hended hback plain]
  have hposition : front.length + 1 = ended.flatten.length := by
    have := length_of_lines hended
    simpa using this
  rw [hposition, (lineColumn_behind hlines (ne_nil_of_lines hback)).2 plain, hline, hcount, lineCount,
    hlines, hback]
  refine ⟨?_, rfl⟩
  simp only [List.length_append, List.length_cons]
  omega

/-! ## The line before -/

/-- What stands before a position in its line. -/
def lineUpTo (b : Buffer) (position : Nat) : List Char :=
  (b.text.take position).drop (b.lineStart (b.lineColumn position).1)

theorem lineUpTo_eq (htext : b.text = front ++ back) (hfront : Text.lines front = before ++ [last])
    (apart : ¬ ReturnMeetsFeed front back) : b.lineUpTo front.length = last := by
  obtain ⟨first, after, hback⟩ := exists_first_line back
  have hlines : b.lines = before ++ (last ++ first) :: after := by
    rw [lines, htext, lines_append hfront hback apart]
  have hflat : front = before.flatten ++ last := by
    rw [← flatten_lines front, hfront]
    simp
  rw [lineUpTo, (line_of_apart htext hfront apart).1, lineStart_eq hlines, htext, List.take_left, hflat,
    List.drop_left]

theorem lineText_before {rest : List Char} (htext : b.text = front ++ back)
    (hopened : b'.text = front ++ '\n' :: rest) (apart : front.getLast? ≠ some '\r') :
    b'.lineText ((b'.lineColumn (front.length + 1)).1 - 1) = b.lineUpTo front.length := by
  obtain ⟨before, last, hlast⟩ := exists_last_line front
  obtain ⟨first, after, hrest⟩ := exists_first_line rest
  have hended : Text.lines (front ++ ['\n']) = (before ++ [last ++ ['\n']]) ++ [[]] := by
    simpa using lines_feed hlast apart
  have hlines : b'.lines = (before ++ [last ++ ['\n']]) ++ ([] ++ first) :: after := by
    have htext' : front ++ '\n' :: rest = front ++ ['\n'] ++ rest := by simp
    rw [lines, hopened, htext']
    exact lines_opened hended hrest (by simp)
  have hline : (b'.lineColumn (front.length + 1)).1 = before.length + 1 := by
    have hposition : front.length + 1 = (before ++ [last ++ ['\n']]).flatten.length := by
      simpa using length_of_lines hended
    rw [hposition]
    simpa using (lineColumn_behind hlines (ne_nil_of_lines hrest)).1
  have hbefore : b'.lines = before ++ (last ++ ['\n']) :: first :: after := by simp [hlines]
  have hplain : last.getLast? ≠ some '\r' :=
    getLast?_ne_of_plain (not_isLineEnd_of_lines hlast) (by decide)
  rw [hline, Nat.add_sub_cancel, lineText_eq hbefore, withoutFeed_feed hplain,
    lineUpTo_eq htext hlast fun meets => apart meets.1]

end Buffer

end CodeEditor
