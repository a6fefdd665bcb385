import CodeEditor.Indent
import Mathlib.Data.List.DropRight

/-! # The indentation of a new line

It is the blanks at the start of the line before, and two more when the last word of that line opens a
block.
-/

namespace CodeEditor

namespace Text

/-! ## ASCII letters -/

theorem isAsciiLetter_of_toLower {c : Char} (h : isAsciiLetter c.toLower = true) :
    isAsciiLetter c = true := by
  by_cases hupper : 'A' ≤ c ∧ c ≤ 'Z'
  · simp [isAsciiLetter, hupper.1, hupper.2]
  · have hsame : c.toLower = c := by
      unfold Char.toLower
      exact dif_neg fun h => hupper ⟨h.1, h.2⟩
    rwa [hsame] at h

theorem isAlphanumeric_of_isAsciiLetter {c : Char} (h : isAsciiLetter c = true) :
    isAlphanumeric c = true := by
  have hsmall : c.toNat < 0x80 := by
    simp only [isAsciiLetter, Bool.or_eq_true, Bool.and_eq_true, decide_eq_true_iff] at h
    rcases h with ⟨-, hc⟩ | ⟨-, hc⟩
    · exact Nat.lt_of_le_of_lt (UInt32.le_iff_toNat_le.mp hc) (by decide)
    · exact Nat.lt_of_le_of_lt (UInt32.le_iff_toNat_le.mp hc) (by decide)
  rw [isAlphanumeric, if_pos hsmall, h]
  rfl

end Text

namespace Indent

/-! ## The last word -/

/-- The longest stretch of word characters at the end of the line, blanks after it apart. -/
def lastWord (line : List Char) : List Char := (Text.trimEnd line).rtakeWhile isWordPart

/-- The last word of the line is one of those that open a block, in whatever case of its ASCII letters. -/
def OpensBlock (line : List Char) : Prop :=
  ∃ word ∈ openers, (lastWord line).map Char.toLower = word.toList

theorem isWordPart_of_toLower_mem {word : String} (h : word ∈ openers) {c : Char}
    (hc : c.toLower ∈ word.toList) : isWordPart c = true := by
  have hopeners : (openers.all fun word => word.toList.all Text.isAsciiLetter) = true := by decide
  have hword := List.all_eq_true.mp hopeners word h
  have hletter := Text.isAsciiLetter_of_toLower (List.all_eq_true.mp hword _ hc)
  rw [isWordPart, Text.isAlphanumeric_of_isAsciiLetter hletter]
  rfl

theorem endsWithWord_iff {backwards word : List Char}
    (letters : ∀ c : Char, c.toLower ∈ word → isWordPart c = true) :
    endsWithWord backwards word = true ↔
      (backwards.takeWhile isWordPart).map Char.toLower = word.reverse := by
  unfold endsWithWord
  simp only [Bool.and_eq_true, beq_iff_eq, Bool.not_eq_true']
  constructor
  · rintro ⟨hword, hbefore⟩
    have hinside : ∀ c ∈ backwards.take word.length, isWordPart c = true := by
      intro c hc
      have hlower := List.mem_map_of_mem (f := Char.toLower) hc
      rw [hword, List.mem_reverse] at hlower
      exact letters c hlower
    have hstop : (backwards.drop word.length).takeWhile isWordPart = [] := by
      cases hdrop : backwards.drop word.length with
      | nil => rfl
      | cons c cs =>
        rw [hdrop, List.head?_cons, Option.any_some] at hbefore
        exact List.takeWhile_cons_of_neg (by simp [hbefore])
    rw [← hword]
    conv_lhs => rw [← List.take_append_drop word.length backwards]
    rw [List.takeWhile_append_of_pos hinside, hstop, List.append_nil]
  · intro hword
    have hlength : (backwards.takeWhile isWordPart).length = word.length := by
      simpa using congrArg List.length hword
    have hsplit := List.takeWhile_append_dropWhile (p := isWordPart) (l := backwards)
    have htake : backwards.take word.length = backwards.takeWhile isWordPart := by
      rw [← hsplit, List.take_left' hlength, hsplit]
    have hdrop : backwards.drop word.length = backwards.dropWhile isWordPart := by
      rw [← hsplit, List.drop_left' hlength, hsplit]
    rw [htake, hdrop]
    refine ⟨hword, ?_⟩
    have hstop := List.head?_dropWhile_not isWordPart backwards
    cases hhead : (backwards.dropWhile isWordPart).head? with
    | none => rfl
    | some c =>
      rw [hhead] at hstop
      exact hstop

theorem opensBlock_iff (line : List Char) : opensBlock line = true ↔ OpensBlock line := by
  have hback : (Text.trimEnd line).reverse = line.reverse.dropWhile Text.isBlank := by
    rw [Text.trimEnd, List.reverse_reverse]
  unfold opensBlock OpensBlock lastWord List.rtakeWhile
  rw [hback, List.any_eq_true]
  refine exists_congr fun word => and_congr_right fun hword => ?_
  rw [endsWithWord_iff fun c hc => isWordPart_of_toLower_mem hword hc, List.map_reverse,
    List.reverse_eq_iff]

/-! ## The whole indentation -/

theorem blank_of_mem_leading {line : List Char} {c : Char} (h : c ∈ leading line) :
    c = ' ' ∨ c = '\t' := by
  simpa using List.mem_takeWhile_imp h

/-- How a line is indented that comes after this one. -/
def IsAfter (line indent : List Char) : Prop :=
  ∃ run rest, line = run ++ rest ∧ (∀ c ∈ run, c = ' ' ∨ c = '\t') ∧
    (∀ c ∈ rest.head?, c ≠ ' ' ∧ c ≠ '\t') ∧
    (OpensBlock line → indent = run ++ [' ', ' ']) ∧ (¬ OpensBlock line → indent = run)

theorem isAfter_after (line : List Char) : IsAfter line (after line) := by
  refine ⟨leading line, line.dropWhile fun c => c == ' ' || c == '\t',
    List.takeWhile_append_dropWhile.symm, ?_, ?_, ?_, ?_⟩
  · exact fun c hc => blank_of_mem_leading hc
  · intro c hc
    have hstop := List.head?_dropWhile_not (fun c => c == ' ' || c == '\t') line
    rw [Option.mem_def.mp hc] at hstop
    simpa using hstop
  · intro hopens
    rw [after, if_pos ((opensBlock_iff line).mpr hopens)]
    rfl
  · intro hcloses
    rw [after, if_neg fun hopens => hcloses ((opensBlock_iff line).mp hopens)]

theorem blank_of_mem_after {line : List Char} {c : Char} (h : c ∈ after line) : c = ' ' ∨ c = '\t' := by
  unfold after at h
  split at h
  · rcases List.mem_append.mp h with hc | hc
    · exact blank_of_mem_leading hc
    · left
      simpa [unit] using hc
  · exact blank_of_mem_leading h

end Indent

end CodeEditor
