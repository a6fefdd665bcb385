/-! # Splitting a text -/

namespace CodeEditor.Text

/-- The parts of a text between the separators, one more than there are separators. -/
def split (separator : Char) : List Char → List (List Char)
  | [] => [[]]
  | c :: cs =>
    if c == separator then [] :: split separator cs
    else
      match split separator cs with
      | [] => [[c]]
      | part :: parts => (c :: part) :: parts

/-- The parts of a string between the separators. -/
def splitString (separator : Char) (s : String) : List String :=
  (split separator s.toList).map String.ofList

theorem not_mem_split (separator : Char) (text part : List Char)
    (h : part ∈ split separator text) : separator ∉ part := by
  induction text generalizing part with
  | nil => simp only [split, List.mem_singleton] at h; simp [h]
  | cons c cs ih =>
    simp only [split] at h
    split at h
    · rcases List.mem_cons.mp h with rfl | h
      · simp
      · exact ih part h
    · next hc =>
      have hne : separator ≠ c := fun he => hc (by simp [he])
      split at h
      · simp only [List.mem_singleton] at h; simp [h, hne]
      · next head tail hs =>
        rcases List.mem_cons.mp h with rfl | h
        · have := ih head (by simp [hs])
          simp [hne, this]
        · exact ih part (by simp [hs, h])

end CodeEditor.Text
