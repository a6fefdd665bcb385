import CodeEditor.StyledText
import CodeEditor.Proofs.Runs

/-! # Styled texts

Whatever is done to a styled text, its runs lie over whole characters one after the other, and no two
neighbours look the same.
-/

namespace CodeEditor

/-! ## Operations -/

namespace StyledText

/-- What can be done to a styled text. -/
inductive Operation where
  | setText (text : List Char) (attributes : Attributes)
  | replace (span : Span) (text : List Char) (attributes : Attributes)
  /-- A batch of changes, in the end committed or given up. -/
  | batch (changes : List Restyle) (committed : Bool)

/-- The text after a batch of changes. -/
def batch (t : StyledText) (changes : List Restyle) (committed : Bool) : StyledText :=
  let b := changes.foldl Batch.update t.beginEditing
  if committed then b.commit else b.drop

def apply (t : StyledText) : Operation → StyledText
  | .setText text attributes => t.setText text attributes
  | .replace span text attributes => t.replace span text attributes
  | .batch changes committed => t.batch changes committed

def applyAll (t : StyledText) (operations : List Operation) : StyledText :=
  operations.foldl apply t

/-! ## Batches -/

theorem batch_eq_restyle (t : StyledText) (changes : List Restyle) (committed : Bool) :
    t.batch changes committed = t.restyle changes := by
  cases committed
  · exact (Batch.commit_eq_drop _).symm
  · rfl

/-- The runs after changes of attributes, neighbours not being joined. -/
def restyledRuns (t : StyledText) (changes : List Restyle) : List Run :=
  changes.foldl (restyleRuns t.text) t.runs

theorem foldl_update (b : Batch) (changes : List Restyle) :
    changes.foldl Batch.update b =
      { b with staged := changes.foldl (restyleRuns b.target.text) b.staged } := by
  induction changes generalizing b with
  | nil => rfl
  | cons r rs ih => rw [List.foldl_cons, ih]; rfl

theorem restyle_eq (t : StyledText) (changes : List Restyle) :
    t.restyle changes =
      if Run.sameRuns (Run.merge (t.restyledRuns changes)) t.runs then t
      else { t with runs := Run.merge (t.restyledRuns changes), revision := t.revision + 1 } := by
  rw [restyle, Batch.commit_eq_drop, foldl_update]
  rfl

/-! ## Well-formed texts -/

/-- The runs lie over the text, and no two neighbours look the same. -/
structure Sound (t : StyledText) : Prop where
  covers : Run.Covers t.text t.runs
  separated : Run.Separated t.runs

theorem sound_plain (text : List Char) (a : Attributes) : (plain text a).Sound := by
  refine ⟨Run.covers_covering text a, ?_⟩
  simp only [plain, Run.covering]
  split
  · exact .nil
  · exact .singleton _

theorem sound_setText (t : StyledText) (text : List Char) (a : Attributes) :
    (t.setText text a).Sound :=
  ⟨(sound_plain text a).covers, (sound_plain text a).separated⟩

theorem replace_eq {t : StyledText} {s : Span} {before inside after : List Char}
    (htext : t.text = before ++ inside ++ after)
    (hstart : Text.byteLength before = (Text.snap t.text s).start)
    (hstop : Text.byteLength (before ++ inside) = (Text.snap t.text s).stop) (text : List Char)
    (a : Attributes) :
    t.replace s text a =
      if inside = [] ∧ text = [] then t
      else
        { text := before ++ text ++ after
          runs := Run.merge (Run.replace t.runs (Text.snap t.text s)
            (Run.covering (Text.byteLength text) a))
          revision := t.revision + 1 } := by
  have hempty : (Text.snap t.text s).isEmpty = true ↔ inside = [] := by
    rw [Span.isEmpty, decide_eq_true_iff, ← hstart, ← hstop, ← Text.byteLength_eq_zero,
      Text.byteLength_append]
    omega
  have hbefore : (Text.splitAtByte t.text (Text.snap t.text s).start).1 = before := by
    rw [← hstart, htext, List.append_assoc, Text.splitAtByte_byteLength]
  have hafter : (Text.splitAtByte t.text (Text.snap t.text s).stop).2 = after := by
    rw [← hstop, htext, Text.splitAtByte_byteLength]
  simp only [replace, Bool.and_eq_true, List.isEmpty_iff, hempty, hbefore, hafter]

theorem sound_replace {t : StyledText} (h : t.Sound) (s : Span) (text : List Char)
    (a : Attributes) : (t.replace s text a).Sound := by
  obtain ⟨before, inside, after, htext, hstart, hstop⟩ := Text.exists_pieces_snap t.text s
  rw [replace_eq htext hstart hstop]
  split
  · exact h
  · have hcovers := h.covers
    rw [htext] at hcovers
    exact ⟨(hcovers.replace hstart hstop (Run.covers_covering text a)).merge, Run.separated_merge _⟩

theorem covers_restyleRuns {text : List Char} {runs : List Run} (h : Run.Covers text runs)
    (r : Restyle) : Run.Covers text (restyleRuns text runs r) := by
  obtain ⟨before, inside, after, htext, hstart, hstop⟩ := Text.exists_pieces_snap text r.span
  rw [restyleRuns]
  split
  · exact h
  · rw [htext] at h ⊢
    rw [htext] at hstart hstop
    exact h.update hstart hstop r.change

theorem covers_restyledRuns {t : StyledText} (h : t.Sound) (changes : List Restyle) :
    Run.Covers t.text (t.restyledRuns changes) := by
  have hfold : ∀ runs, Run.Covers t.text runs →
      Run.Covers t.text (changes.foldl (restyleRuns t.text) runs) := by
    induction changes with
    | nil => exact fun runs hruns => hruns
    | cons r rs ih => exact fun runs hruns => ih _ (covers_restyleRuns hruns r)
  exact hfold t.runs h.covers

theorem sound_restyle {t : StyledText} (h : t.Sound) (changes : List Restyle) :
    (t.restyle changes).Sound := by
  rw [restyle_eq]
  split
  · exact h
  · exact ⟨(covers_restyledRuns h changes).merge, Run.separated_merge _⟩

theorem Sound.restyle_empty {t : StyledText} (h : t.Sound) (empty : t.text = [])
    (changes : List Restyle) : t.restyle changes = t := by
  rw [restyle_eq, h.covers.runs_nil empty, (covers_restyledRuns h changes).runs_nil empty]
  rfl

theorem sound_apply {t : StyledText} (h : t.Sound) (operation : Operation) :
    (t.apply operation).Sound := by
  cases operation with
  | setText text attributes => exact sound_setText t text attributes
  | replace span text attributes => exact sound_replace h span text attributes
  | batch changes committed =>
    rw [apply, batch_eq_restyle]
    exact sound_restyle h changes

theorem sound_applyAll {t : StyledText} (h : t.Sound) (operations : List Operation) :
    (t.applyAll operations).Sound := by
  induction operations generalizing t with
  | nil => exact h
  | cons operation operations ih => exact ih (sound_apply h operation)

/-! ## The bytes of the runs -/

theorem start_le_of_mem_located {start : Nat} {runs : List Run} :
    ∀ p ∈ Run.located start runs, start ≤ p.1.start := by
  induction runs generalizing start with
  | nil => simp [Run.located]
  | cons r rs ih =>
    refine List.forall_mem_cons.mpr ⟨le_rfl, fun p hp => ?_⟩
    exact le_trans (Nat.le_add_right _ _) (ih p hp)

theorem attributesAt?_of_mem_located {start : Nat} {runs : List Run} :
    ∀ p ∈ Run.located start runs, ∀ byte, p.1.start ≤ byte → byte < p.1.stop →
      Run.attributesAt? runs (byte - start) = some p.2 := by
  induction runs generalizing start with
  | nil => simp [Run.located]
  | cons r rs ih =>
    refine List.forall_mem_cons.mpr ⟨fun byte hle hlt => ?_, fun p hp byte hle hlt => ?_⟩
    · simp only at hle hlt
      rw [Run.attributesAt?, if_pos (by omega)]
    · have := start_le_of_mem_located p hp
      rw [Run.attributesAt?, if_neg (by omega), Nat.sub_sub]
      exact ih p hp byte hle hlt

theorem isSome_attributesAt? {t : StyledText} (h : t.Sound) (byte : Nat) :
    (t.attributesAt? byte).isSome ↔ byte < t.byteLength := by
  rw [attributesAt?, Run.attributesAt?_eq, byteLength, ← h.covers.total_eq]
  simp

end StyledText

end CodeEditor
