import CodeEditor.Run
import CodeEditor.Text.Offset

/-! # Text with attributes

Offsets are bytes of the UTF-8 form. Any span is taken: it is cut to the text and widened so that no
character is divided.
-/

namespace CodeEditor

/-- A change of the attributes over a span. -/
structure Restyle where
  span : Span
  change : Attributes → Attributes

namespace Restyle

def attributes (s : Span) (a : Attributes) : Restyle := ⟨s, fun _ => a⟩

def foreground (s : Span) (color : Color) : Restyle := ⟨s, (·.withForeground color)⟩

def font (s : Span) (f : Font) : Restyle := ⟨s, (·.withFont f)⟩

def bold (s : Span) : Restyle := ⟨s, Attributes.bolded⟩

end Restyle

structure StyledText where
  text : List Char
  /-- Cover the text; no two neighbours look the same. -/
  runs : List Run
  /-- Grows by one with every change. -/
  revision : UInt64
  deriving DecidableEq, Repr

namespace StyledText

def plain (text : List Char) (attributes : Attributes) : StyledText :=
  ⟨text, Run.covering (Text.byteLength text) attributes, 0⟩

instance : Inhabited StyledText := ⟨plain [] .standard⟩

def byteLength (t : StyledText) : Nat := Text.byteLength t.text

def isEmpty (t : StyledText) : Bool := t.text.isEmpty

/-- The runs with the spans they cover. -/
def spans (t : StyledText) : List (Span × Attributes) := Run.located 0 t.runs

def attributesAt? (t : StyledText) (byte : Nat) : Option Attributes := Run.attributesAt? t.runs byte

def foregroundAt? (t : StyledText) (byte : Nat) : Option Color :=
  (t.attributesAt? byte).map (·.foreground)

/-- Puts a text in one style in place of all that was there. -/
def setText (t : StyledText) (text : List Char) (attributes : Attributes) : StyledText :=
  { plain text attributes with revision := t.revision + 1 }

/-- Puts a text in one style in place of a span. Putting nothing in place of nothing is no change. -/
def replace (t : StyledText) (s : Span) (text : List Char) (attributes : Attributes) :
    StyledText :=
  let s := Text.snap t.text s
  if s.isEmpty && text.isEmpty then t
  else
    { text := (Text.splitAtByte t.text s.start).1 ++ text ++ (Text.splitAtByte t.text s.stop).2
      runs := Run.merge (Run.replace t.runs s (Run.covering (Text.byteLength text) attributes))
      revision := t.revision + 1 }

/-- The runs of a text after one change of attributes, neighbours not being joined. -/
def restyleRuns (text : List Char) (runs : List Run) (r : Restyle) : List Run :=
  let s := Text.snap text r.span
  if s.isEmpty then runs else Run.update runs s r.change

end StyledText

/-! ## Batches -/

/-- Changes of attributes of a text that are not to be seen before the last of them is made. -/
structure Batch where
  target : StyledText
  /-- The runs of the text after the changes so far, neighbours not being joined. -/
  staged : List Run
  /-- The staged runs have been handed over. -/
  finished : Bool

namespace Batch

def update (b : Batch) (r : Restyle) : Batch :=
  { b with staged := StyledText.restyleRuns b.target.text b.staged r }

/-- Hands the staged runs over, once. If nothing looks different in the end, nothing has changed. -/
def finish (b : Batch) : Batch :=
  if b.finished then b
  else
    let runs := Run.merge b.staged
    { target :=
        if Run.sameRuns runs b.target.runs then b.target
        else { b.target with runs := runs, revision := b.target.revision + 1 }
      staged := []
      finished := true }

/-- The text after a batch is given up; its changes count all the same. -/
def drop (b : Batch) : StyledText := b.finish.target

/-- The text after a batch is closed. What is left of the batch is then given up. -/
def commit (b : Batch) : StyledText := b.finish.drop

theorem commit_eq_drop (b : Batch) : b.commit = b.drop := by
  simp only [commit, drop, finish]
  split <;> simp_all

@[simp] theorem text_drop (b : Batch) : b.drop.text = b.target.text := by
  simp only [drop, finish]
  split
  · rfl
  · simp only; split <;> rfl

@[simp] theorem target_foldl_update (b : Batch) (changes : List Restyle) :
    (changes.foldl update b).target = b.target := by
  induction changes generalizing b with
  | nil => rfl
  | cons r rs ih => rw [List.foldl_cons, ih]; rfl

end Batch

namespace StyledText

/-- A batch in which nothing has been changed yet. -/
def beginEditing (t : StyledText) : Batch := ⟨t, t.runs, false⟩

/-- Makes changes of attributes one after the other in a batch. -/
def restyle (t : StyledText) (changes : List Restyle) : StyledText :=
  (changes.foldl Batch.update t.beginEditing).commit

@[simp] theorem text_restyle (t : StyledText) (changes : List Restyle) :
    (t.restyle changes).text = t.text := by
  rw [restyle, Batch.commit_eq_drop, Batch.text_drop, Batch.target_foldl_update]
  rfl

end StyledText

end CodeEditor
