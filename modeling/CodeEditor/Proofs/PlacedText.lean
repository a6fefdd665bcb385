import CodeEditor.Proofs.PlacedRuns
import CodeEditor.Proofs.StyledText
import Mathlib.Data.List.Chain

/-! # Styled texts by the offsets of their runs

The operations on stored offsets always answer, and keep the offsets of the runs by length. So whatever is
done to a styled text, its runs tile the text between boundaries of characters and no two neighbours look
the same.
-/

namespace CodeEditor

open StyledText (Operation)

/-! ## One operation after the other -/

namespace PlacedText

/-- The text after a batch of changes, in the end committed or given up. -/
def batch? (t : PlacedText) (changes : List Restyle) (committed : Bool) : Option PlacedText := do
  let b ← changes.foldlM PlacedBatch.update? t.beginEditing
  some (if committed then b.commit else b.drop)

def step? (counts : Nat → Bool) (t : PlacedText) : Operation → Option PlacedText
  | .setText text attributes => some (t.setText text attributes)
  | .replace span text attributes => t.replace? counts span text attributes
  | .batch changes committed => t.batch? changes committed

def steps? (counts : Nat → Bool) (t : PlacedText) (operations : List Operation) :
    Option PlacedText :=
  operations.foldlM (step? counts) t

end PlacedText

theorem Run.Covers.filled {text : List Char} {runs : List Run} (h : Run.Covers text runs) :
    Run.Filled runs := h.length_pos

namespace StyledText

variable {t : StyledText} {counts : Nat → Bool}

theorem placed_plain (text : List Char) (a : Attributes) :
    (plain text a).placed = PlacedText.plain text a := by
  cases text with
  | nil => rfl
  | cons c cs =>
    have hfilled : Text.byteLength (c :: cs) ≠ 0 := by
      rw [ne_eq, Text.byteLength_eq_zero]
      exact List.cons_ne_nil c cs
    rw [placed, plain, Run.covering, if_neg hfilled]
    simp [PlacedText.plain]

theorem placed_setText (t : StyledText) (text : List Char) (a : Attributes) :
    (t.setText text a).placed = t.placed.setText text a := by
  simp only [setText, PlacedText.setText, ← placed_plain]
  rfl

theorem replace?_placed (h : t.Sound) (s : Span) (text : List Char) (a : Attributes)
    (fits : ∀ n ≤ t.byteLength + Text.byteLength text, counts n) :
    t.placed.replace? counts s text a = some (t.replace s text a).placed := by
  have ordered := Text.snap_ordered t.text s
  have hstart := Text.floorBoundary_eq (Text.isBoundary_snap_start t.text s)
  have hstop := Text.floorBoundary_eq (Text.isBoundary_snap_stop t.text s)
  have within := (Text.isBoundary_snap_stop t.text s).le_byteLength
  have htext : t.placed.text = t.text := rfl
  unfold PlacedText.replace? replace
  rw [htext]
  generalize hsnap : Text.snap t.text s = snapped at ordered hstart hstop within
  simp only [hstart, hstop, ne_eq, not_true_eq_false, or_self, if_false]
  split
  · rfl
  · rw [← h.covers.total_eq] at within
    rw [byteLength, ← h.covers.total_eq] at fits
    have hruns := PlacedRun.replace?_placed h.covers.filled ordered within a fits
    have hfilled := Run.filled_replace h.covers.filled (Run.filled_covering (Text.byteLength text) a)
      snapped
    have hplaced : t.placed.runs = Run.placed 0 t.runs := rfl
    simp only [hplaced, hruns, PlacedRun.coalesce_placed hfilled, Option.bind_eq_bind, Option.bind_some]
    rfl

end StyledText

/-! ## Batches -/

namespace Batch

variable {b : Batch}

theorem update?_placed (h : Run.Covers b.target.text b.staged) (r : Restyle) :
    b.placed.update? r = some (b.update r).placed := by
  have ordered := Text.snap_ordered b.target.text r.span
  have within := (Text.isBoundary_snap_stop b.target.text r.span).le_byteLength
  rw [← h.total_eq] at within
  have hruns := PlacedRun.update?_placed h.filled ordered within r.change
  have htext : b.placed.target.text = b.target.text := rfl
  have hstaged : b.placed.staged = Run.placed 0 b.staged := rfl
  unfold PlacedBatch.update? update StyledText.restyleRuns
  rw [htext, hstaged]
  simp only [hruns, Option.map_some]
  split <;> rfl

theorem foldlM_update?_placed (h : Run.Covers b.target.text b.staged) (changes : List Restyle) :
    changes.foldlM PlacedBatch.update? b.placed = some (changes.foldl update b).placed := by
  induction changes generalizing b with
  | nil => rfl
  | cons r rs ih =>
    have hnext : Run.Covers (b.update r).target.text (b.update r).staged :=
      StyledText.covers_restyleRuns h r
    rw [List.foldlM_cons, update?_placed h r, List.foldl_cons, ← ih hnext]
    rfl

theorem placed_finish (filled : Run.Filled b.staged) : b.placed.finish = b.finish.placed := by
  have hstaged : b.placed.staged = Run.placed 0 b.staged := rfl
  have htarget : b.placed.target.runs = Run.placed 0 b.target.runs := rfl
  have hfinished : b.placed.finished = b.finished := rfl
  unfold PlacedBatch.finish finish
  rw [hstaged, htarget, hfinished, PlacedRun.coalesce_placed filled]
  simp only [PlacedRun.sameRuns_placed]
  split
  · rfl
  · split <;> rfl

end Batch

theorem PlacedBatch.commit_eq_drop (b : PlacedBatch) : b.commit = b.drop := by
  simp only [commit, drop, finish]
  split <;> simp_all

namespace StyledText

variable {t : StyledText} {counts : Nat → Bool}

theorem batch?_placed (h : t.Sound) (changes : List Restyle) (committed : Bool) :
    t.placed.batch? changes committed = some (t.batch changes committed).placed := by
  have hfold := Batch.foldlM_update?_placed (b := t.beginEditing) h.covers changes
  have hfilled : Run.Filled (changes.foldl Batch.update t.beginEditing).staged := by
    rw [foldl_update]
    exact (covers_restyledRuns h changes).filled
  have hfinish := Batch.placed_finish hfilled
  have hbegin : t.placed.beginEditing = t.beginEditing.placed := rfl
  rw [PlacedText.batch?, hbegin, hfold]
  simp only [PlacedBatch.commit_eq_drop, batch, Batch.commit_eq_drop, ite_self, Option.bind_eq_bind,
    Option.bind_some, PlacedBatch.drop, hfinish]
  rfl

theorem restyle?_placed (h : t.Sound) (changes : List Restyle) :
    t.placed.restyle? changes = some (t.restyle changes).placed := batch?_placed h changes true

theorem step?_placed (h : t.Sound) (operation : Operation)
    (fits : ∀ n, counts n) : t.placed.step? counts operation = some (t.apply operation).placed := by
  cases operation with
  | setText text attributes => rw [apply, placed_setText]; rfl
  | replace span text attributes => exact replace?_placed h span text attributes fun n _ => fits n
  | batch changes committed => exact batch?_placed h changes committed

theorem steps?_placed (h : t.Sound) (operations : List Operation) (fits : ∀ n, counts n) :
    t.placed.steps? counts operations = some (t.applyAll operations).placed := by
  unfold PlacedText.steps?
  induction operations generalizing t with
  | nil => rfl
  | cons operation operations ih =>
    rw [List.foldlM_cons, step?_placed h operation fits]
    exact ih (sound_apply h operation)

end StyledText

/-! ## What the stored runs are to be -/

namespace PlacedText

/-- The spans lead from one offset to another: each starts where the one before it stops, and none is
empty. -/
def Tile : Nat → List Span → Nat → Prop
  | start, [], stop => start = stop
  | start, s :: rest, stop => s.start = start ∧ s.start < s.stop ∧ Tile s.stop rest stop

structure WellFormed (t : PlacedText) : Prop where
  /-- In ascending order, without gaps, from the first byte to the last; none is empty. -/
  tiled : Tile 0 (t.runs.map (·.span)) t.byteLength
  /-- No character is divided. -/
  onBoundaries : ∀ r ∈ t.runs, Text.IsBoundary t.text r.span.start ∧ Text.IsBoundary t.text r.span.stop
  /-- No two neighbours look the same. -/
  apart : t.runs.IsChain fun r next => ¬ r.attributes.agrees next.attributes
  /-- The bytes of a run have its attributes. -/
  shown : ∀ r ∈ t.runs, ∀ byte, r.span.start ≤ byte → byte < r.span.stop →
    t.attributesAt? byte = some (some r.attributes)
  /-- Each byte of the text has attributes, and nothing else has. -/
  found : ∀ byte, ∃ a?, t.attributesAt? byte = some a? ∧ (a?.isSome ↔ byte < t.byteLength)

end PlacedText

open PlacedText (Tile)

theorem tile_placed {text : List Char} {runs : List Run} (h : Run.Covers text runs) (start : Nat) :
    Tile start ((Run.placed start runs).map (·.span)) (start + Text.byteLength text) := by
  induction h generalizing start with
  | nil => rfl
  | @cons piece text r runs filled length rest ih =>
    have hpos : 0 < r.length := (Run.Covers.cons filled length rest).length_pos r List.mem_cons_self
    refine ⟨rfl, by simpa using hpos, ?_⟩
    rw [Text.byteLength_append, ← length, ← Nat.add_assoc]
    exact ih _

theorem isBoundary_placed {text : List Char} {runs : List Run} (h : Run.Covers text runs)
    (before : List Char) :
    ∀ r ∈ Run.placed (Text.byteLength before) runs,
      Text.IsBoundary (before ++ text) r.span.start ∧ Text.IsBoundary (before ++ text) r.span.stop := by
  induction h generalizing before with
  | nil => simp
  | @cons piece text r runs filled length rest ih =>
    have hend : Text.byteLength before + r.length = Text.byteLength (before ++ piece) := by
      rw [Text.byteLength_append, length]
    rw [Run.placed_cons, hend, ← List.append_assoc]
    refine List.forall_mem_cons.mpr ⟨⟨?_, ?_⟩, ih _⟩
    · exact ⟨before, piece ++ text, by simp, rfl⟩
    · exact ⟨before ++ piece, text, rfl, rfl⟩

theorem attributes_placed (start : Nat) (runs : List Run) :
    (Run.placed start runs).map (·.attributes) = runs.map Run.attributes := by
  induction runs generalizing start with
  | nil => rfl
  | cons r rs ih => simp [ih]

namespace StyledText

variable {t : StyledText}

theorem attributesAt?_placed (h : t.Sound) (byte : Nat) :
    t.placed.attributesAt? byte = some (t.attributesAt? byte) := by
  have hruns : t.placed.runs = Run.placed 0 t.runs := rfl
  unfold PlacedText.attributesAt?
  rw [hruns, attributesAt?, Run.attributesAt?_eq]
  rcases Run.splitAt_cases byte h.covers.filled with ⟨hbehind, -⟩ | ⟨before, r, after, hparts, hle, hlt, -⟩
  · have hindex : PlacedRun.indexAt? byte (Run.placed 0 t.runs) = some none :=
      PlacedRun.indexAt?_behind h.covers.filled (by omega)
    rw [hindex, List.getElem?_eq_none (by rw [Run.length_styles]; exact hbehind)]
    rfl
  · have hfilled := h.covers.filled
    rw [hparts] at hfilled ⊢
    have hindex : PlacedRun.indexAt? byte (Run.placed 0 (before ++ r :: after)) =
        some (some before.length) :=
      PlacedRun.indexAt?_inside hfilled (by omega) (by omega)
    have hshown : (Run.styles (before ++ r :: after))[byte]? = some r.attributes := by
      rw [Run.styles_append, List.getElem?_append_right (by rw [Run.length_styles]; exact hle),
        Run.styles_cons, Run.length_styles, List.getElem?_append_left (by simp; omega),
        List.getElem?_replicate, if_pos (by omega)]
    simp only [hindex, hshown, PlacedRun.getElem?_placed, Option.bind_eq_bind, Option.bind_some,
      Option.map_some]

theorem wellFormed_placed (h : t.Sound) : t.placed.WellFormed where
  tiled := by
    have htile := tile_placed h.covers 0
    rwa [Nat.zero_add] at htile
  onBoundaries := isBoundary_placed h.covers []
  apart := by
    have hchain : (t.placed.runs.map (·.attributes)).IsChain fun a b => ¬ a.agrees b := by
      have hattributes : t.placed.runs.map (·.attributes) = t.runs.map Run.attributes :=
        attributes_placed 0 t.runs
      rw [hattributes, List.isChain_map]
      exact h.separated
    rwa [List.isChain_map] at hchain
  shown r hr byte hle hlt := by
    obtain ⟨p, hp, rfl⟩ := List.mem_map.mp hr
    rw [attributesAt?_placed h byte]
    exact congrArg some (attributesAt?_of_mem_located p hp byte hle hlt)
  found byte := ⟨_, attributesAt?_placed h byte, isSome_attributesAt? h byte⟩

end StyledText

namespace PlacedText

/-- Whatever is done to a text, its stored runs are well-formed, and they are the runs by length with the
offsets where these lie. -/
theorem runs_well_formed (text : List Char) (a : Attributes) (operations : List Operation) :
    let t := ((StyledText.plain text a).applyAll operations).placed
    (plain text a).steps? (fun _ => true) operations = some t ∧ t.WellFormed := by
  intro t
  have hplain := StyledText.sound_plain text a
  refine ⟨?_, StyledText.wellFormed_placed (StyledText.sound_applyAll hplain operations)⟩
  rw [← StyledText.placed_plain]
  exact StyledText.steps?_placed hplain operations fun _ => rfl

end PlacedText

end CodeEditor
