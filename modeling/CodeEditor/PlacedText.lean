import CodeEditor.Machine
import CodeEditor.StyledText

/-! # Styled text by the offsets of its runs

Each run is kept with the offsets where it starts and stops, and every operation works on these. A search
by halves, an access or a difference that is not in order has no answer. `counts` says which offsets a
machine can hold.
-/

namespace CodeEditor

open Machine

/-- A run with the bytes that it lies over. -/
structure PlacedRun where
  span : Span
  attributes : Attributes
  deriving DecidableEq, Repr

namespace PlacedRun

/-! ## Lists of runs -/

/-- The place of the first run for which `p` fails, found by halves. What that finds is not known unless
the runs for which `p` holds come before all others. -/
def partitionPoint? (p : PlacedRun → Bool) (runs : List PlacedRun) : Option Nat :=
  if (runs.dropWhile p).any p then none else some (runs.takeWhile p).length

/-- The place of the run over a byte, if there is one. -/
def indexAt? (byte : Nat) (runs : List PlacedRun) : Option (Option Nat) := do
  let index ← partitionPoint? (·.span.stop ≤ byte) runs
  match runs[index]? with
  | some r => some (if r.span.start ≤ byte then some index else none)
  | none => some none

def insert? (index : Nat) (r : PlacedRun) (runs : List PlacedRun) : Option (List PlacedRun) :=
  if index ≤ runs.length then some (runs.insertIdx index r) else none

/-- Takes out the runs from one place up to another. -/
def drain? (first last : Nat) (runs : List PlacedRun) : Option (List PlacedRun) :=
  if first ≤ last ∧ last ≤ runs.length then some (runs.take first ++ runs.drop last) else none

/-- The runs before a place, and those from there on. -/
def cutAt? (index : Nat) (runs : List PlacedRun) : Option (List PlacedRun × List PlacedRun) :=
  if index ≤ runs.length then some (runs.take index, runs.drop index) else none

/-- Divides the run over a byte, unless it starts there. -/
def splitAt? (byte : Nat) (runs : List PlacedRun) : Option (List PlacedRun) := do
  match ← indexAt? byte runs with
  | none => some runs
  | some index =>
    let r ← runs[index]?
    if r.span.start = byte then some runs
    else
      insert? (index + 1) ⟨⟨byte, r.span.stop⟩, r.attributes⟩
        (runs.set index ⟨⟨r.span.start, byte⟩, r.attributes⟩)

/-- Divides the runs at both ends of a span. -/
def splitAround? (s : Span) (runs : List PlacedRun) : Option (List PlacedRun) := do
  splitAt? s.stop (← splitAt? s.start runs)

/-! ## Replacing -/

/-- An offset behind the replaced bytes, after the replacement. -/
def moveOffset? (counts : Nat → Bool) (removed inserted offset : Nat) : Option Nat := do
  held? counts ((← sub? offset removed) + inserted)

def move? (counts : Nat → Bool) (removed inserted : Nat) (r : PlacedRun) : Option PlacedRun := do
  let start ← moveOffset? counts removed inserted r.span.start
  let stop ← moveOffset? counts removed inserted r.span.stop
  some ⟨⟨start, stop⟩, r.attributes⟩

/-- Puts bytes with the same attributes in place of a span: the runs in the span are taken out, those
behind it moved, and the new one put between. -/
def replace? (counts : Nat → Bool) (s : Span) (inserted : Nat) (attributes : Attributes)
    (runs : List PlacedRun) : Option (List PlacedRun) := do
  let runs ← splitAround? s runs
  let first ← partitionPoint? (·.span.stop ≤ s.start) runs
  let last ← partitionPoint? (·.span.start < s.stop) runs
  let runs ← drain? first last runs
  let removed ← sub? s.stop s.start
  let (before, after) ← cutAt? first runs
  let moved ← after.mapM (move? counts removed inserted)
  if 0 < inserted then
    let stop ← held? counts (s.start + inserted)
    insert? first ⟨⟨s.start, stop⟩, attributes⟩ (before ++ moved)
  else some (before ++ moved)

/-! ## Changing attributes -/

/-- Changes runs up to the first one that starts at `stop` or later. -/
def changeBefore (stop : Nat) (change : Attributes → Attributes) : List PlacedRun → List PlacedRun
  | [] => []
  | r :: rs =>
    if stop ≤ r.span.start then r :: rs
    else ⟨r.span, change r.attributes⟩ :: changeBefore stop change rs

def update? (s : Span) (change : Attributes → Attributes) (runs : List PlacedRun) :
    Option (List PlacedRun) := do
  let runs ← splitAround? s runs
  let first ← partitionPoint? (·.span.stop ≤ s.start) runs
  let (before, after) ← cutAt? first runs
  some (before ++ changeBefore s.stop change after)

/-! ## Joining -/

/-- Joins runs to the last one as long as they touch it and look like it. -/
def joinInto (last : PlacedRun) : List PlacedRun → List PlacedRun
  | [] => [last]
  | r :: rs =>
    if last.span.stop == r.span.start && last.attributes.agrees r.attributes then
      joinInto ⟨⟨last.span.start, r.span.stop⟩, last.attributes⟩ rs
    else last :: joinInto r rs

/-- Leaves out empty runs and joins neighbours that look the same. -/
def coalesce (runs : List PlacedRun) : List PlacedRun :=
  match runs.filter (!·.span.isEmpty) with
  | [] => []
  | r :: rs => joinInto r rs

/-- The two lie over the same bytes and look the same. -/
def sameRuns : List PlacedRun → List PlacedRun → Bool
  | [], [] => true
  | a :: as, b :: bs => a.span == b.span && a.attributes.agrees b.attributes && sameRuns as bs
  | _, _ => false

end PlacedRun

structure PlacedText where
  text : List Char
  runs : List PlacedRun
  revision : UInt64
  deriving DecidableEq, Repr

/-- Changes of attributes of a text that are not to be seen before the last of them is made. -/
structure PlacedBatch where
  target : PlacedText
  staged : List PlacedRun
  finished : Bool

namespace PlacedText

def plain (text : List Char) (attributes : Attributes) : PlacedText :=
  ⟨text, if text.isEmpty then [] else [⟨⟨0, Text.byteLength text⟩, attributes⟩], 0⟩

def byteLength (t : PlacedText) : Nat := Text.byteLength t.text

/-- The attributes of a byte, if one of the runs lies over it. -/
def attributesAt? (t : PlacedText) (byte : Nat) : Option (Option Attributes) := do
  match ← PlacedRun.indexAt? byte t.runs with
  | none => some none
  | some index => (t.runs[index]?).map fun r => some r.attributes

def setText (t : PlacedText) (text : List Char) (attributes : Attributes) : PlacedText :=
  { plain text attributes with revision := t.revision + 1 }

/-- Puts a text in one style in place of a span. The text is cut between characters only. -/
def replace? (counts : Nat → Bool) (t : PlacedText) (s : Span) (text : List Char)
    (attributes : Attributes) : Option PlacedText :=
  let s := Text.snap t.text s
  if s.isEmpty && text.isEmpty then some t
  else if Text.floorBoundary t.text s.start ≠ s.start ∨ Text.floorBoundary t.text s.stop ≠ s.stop then
    none
  else do
    let runs ← PlacedRun.replace? counts s (Text.byteLength text) attributes t.runs
    some
      { text := (Text.splitAtByte t.text s.start).1 ++ text ++ (Text.splitAtByte t.text s.stop).2
        runs := PlacedRun.coalesce runs
        revision := t.revision + 1 }

/-- A batch in which nothing has been changed yet. -/
def beginEditing (t : PlacedText) : PlacedBatch := ⟨t, t.runs, false⟩

end PlacedText

namespace PlacedBatch

def update? (b : PlacedBatch) (r : Restyle) : Option PlacedBatch :=
  let s := Text.snap b.target.text r.span
  if s.isEmpty then some b
  else (PlacedRun.update? s r.change b.staged).map fun staged => { b with staged := staged }

/-- Hands the staged runs over, once. If nothing looks different in the end, nothing has changed. -/
def finish (b : PlacedBatch) : PlacedBatch :=
  if b.finished then b
  else
    let runs := PlacedRun.coalesce b.staged
    { target :=
        if PlacedRun.sameRuns runs b.target.runs then b.target
        else { b.target with runs := runs, revision := b.target.revision + 1 }
      staged := []
      finished := true }

/-- The text after a batch is given up; its changes count all the same. -/
def drop (b : PlacedBatch) : PlacedText := b.finish.target

/-- The text after a batch is closed. What is left of the batch is then given up. -/
def commit (b : PlacedBatch) : PlacedText := b.finish.drop

end PlacedBatch

/-- Makes changes of attributes one after the other in a batch. -/
def PlacedText.restyle? (t : PlacedText) (changes : List Restyle) : Option PlacedText := do
  let b ← changes.foldlM PlacedBatch.update? t.beginEditing
  some b.commit

/-! ## The offsets of runs by length -/

/-- The runs with the offsets that they have one after the other, from `position` on. -/
def Run.placed (position : Nat) (runs : List Run) : List PlacedRun :=
  (Run.located position runs).map fun p => ⟨p.1, p.2⟩

def StyledText.placed (t : StyledText) : PlacedText := ⟨t.text, Run.placed 0 t.runs, t.revision⟩

def Batch.placed (b : Batch) : PlacedBatch := ⟨b.target.placed, Run.placed 0 b.staged, b.finished⟩

end CodeEditor
