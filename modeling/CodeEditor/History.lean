import CodeEditor.Text.Offset

/-! # Undo and redo

Every edit is an operation of its own, except that neighbouring insertions in quick succession may be
joined. The oldest operations are dropped when there are too many or they hold too much text.
-/

namespace CodeEditor

inductive Intent where
  | insert
  | newline
  | autoIndent
  | substitution
  | deleteBackward
  | deleteForward
  | other
  deriving DecidableEq, Repr

/-- A change of the text that has been made, with the cursor before and after it. -/
structure Edit where
  start : Nat
  deleted : List Char
  inserted : List Char
  intent : Intent
  cursorBefore : Nat
  cursorAfter : Nat
  /-- When it was made, in milliseconds. -/
  time : Nat
  deriving DecidableEq, Repr

namespace Edit

/-- How many bytes of text the edit holds. -/
def bytes (e : Edit) : Nat := Text.byteLength e.deleted + Text.byteLength e.inserted

def isEmpty (e : Edit) : Bool := e.deleted.isEmpty && e.inserted.isEmpty

/-- The longest time between insertions that are joined, in milliseconds. -/
def joinWindow : Nat := 750

/-- `next` goes on where the insertion `e` ended, soon enough after it. -/
def continuedBy (e next : Edit) : Bool :=
  e.intent == .insert && next.intent == .insert && next.time - e.time ≤ joinWindow &&
    e.deleted.isEmpty && next.deleted.isEmpty && next.start == e.start + e.inserted.length

def join (e next : Edit) : Edit :=
  { e with
    inserted := e.inserted ++ next.inserted
    cursorAfter := next.cursorAfter
    time := next.time }

end Edit

/-- What to put in place of a span of the text, and where the cursor goes. -/
structure Replacement where
  span : Span
  text : List Char
  cursor : Nat
  deriving DecidableEq, Repr

namespace Edit

def backward (e : Edit) : Replacement :=
  ⟨⟨e.start, e.start + e.inserted.length⟩, e.deleted, e.cursorBefore⟩

def forward (e : Edit) : Replacement :=
  ⟨⟨e.start, e.start + e.deleted.length⟩, e.inserted, e.cursorAfter⟩

end Edit

structure History where
  /-- Neighbouring insertions are joined. -/
  joining : Bool
  /-- The edits that can be undone, last one first. -/
  done : List Edit
  /-- The edits that have been undone, last one first. -/
  undone : List Edit
  /-- How many bytes of text the edits that can be undone hold. -/
  bytes : Nat
  deriving DecidableEq, Repr

namespace History

def maxEdits : Nat := 500

/-- How many bytes of text the edits may hold. -/
def maxBytes : Nat := 8 * 1024 * 1024

def new (joining : Bool) : History := ⟨joining, [], [], 0⟩

instance : Inhabited History := ⟨new false⟩

def canUndo (h : History) : Bool := !h.done.isEmpty

def canRedo (h : History) : Bool := !h.undone.isEmpty

/-- More edits or more text than may be kept. -/
def exceeds (count bytes : Nat) : Bool := maxEdits < count || maxBytes < bytes

/-- Drops edits, given oldest first, until the limits are met; answers those left and their bytes. -/
def dropOldest (count bytes : Nat) : List Edit → List Edit × Nat
  | [] => ([], bytes)
  | e :: es =>
    if exceeds count bytes then dropOldest (count - 1) (bytes - e.bytes) es else (e :: es, bytes)

/-- Brings the edits that can be undone within the limits. -/
def trim (h : History) : History :=
  if exceeds h.done.length h.bytes then
    let (kept, bytes) := dropOldest h.done.length h.bytes h.done.reverse
    { h with done := kept.reverse, bytes := bytes }
  else h

/-- Adds an edit to those that can be undone, or joins it to the last one. -/
def push (h : History) (e : Edit) : History :=
  match h.done with
  | last :: rest =>
    if h.joining && last.continuedBy e then
      let joined := last.join e
      { h with done := joined :: rest, bytes := h.bytes - last.bytes + joined.bytes }
    else { h with done := e :: h.done, bytes := h.bytes + e.bytes }
  | [] => { h with done := [e], bytes := h.bytes + e.bytes }

/-- Keeps an edit that has been made. What was undone before can no longer be made again. -/
def record (h : History) (e : Edit) : History :=
  if e.isEmpty then h else ({ h with undone := [] }.push e).trim

/-- The way back over the last edit, if there is one. -/
def undo? (h : History) : Option (History × Replacement) :=
  match h.done with
  | [] => none
  | e :: es =>
    some ({ h with done := es, undone := e :: h.undone, bytes := h.bytes - e.bytes }, e.backward)

/-- The way forward over the edit that was undone last, if there is one. -/
def redo? (h : History) : Option (History × Replacement) :=
  match h.undone with
  | [] => none
  | e :: es =>
    some ({ h with done := e :: h.done, undone := es, bytes := h.bytes + e.bytes }.trim, e.forward)

def clear (h : History) : History := new h.joining

end History

end CodeEditor
