import CodeEditor.Highlight
import CodeEditor.Pattern.Engine

/-! # Announcing changes

Listeners are told of every change of an editor, in the order in which they came.
-/

namespace CodeEditor

inductive Event where
  | textChanged (revision : UInt64)
  | highlighted (revision : UInt64) (report : Highlight.Report)
  | selectionChanged (cursor : Nat) (selection : Option Span)
  | themeChanged (name : String)
  | grammarChanged (name : String)
  | scrollChanged (firstVisible : Nat)
  deriving DecidableEq

/-- The number that a listener gets. No two of them get the same. -/
structure Subscription where
  number : Nat
  deriving DecidableEq, Repr

structure EventBus where
  /-- The number of the next listener. -/
  next : Nat
  /-- Those that listen, in the order in which they came. -/
  listeners : List Subscription
  /-- What has been told to whom, last one first, since it was last collected. -/
  told : List (Subscription × Event)
  deriving DecidableEq

namespace EventBus

def new : EventBus := ⟨0, [], []⟩

instance : Inhabited EventBus := ⟨new⟩

/-- Adds a listener behind the others. -/
def subscribe (b : EventBus) : EventBus × Subscription :=
  ({ b with next := b.next + 1, listeners := b.listeners ++ [⟨b.next⟩] }, ⟨b.next⟩)

/-- Drops a listener, and answers whether it was there. -/
def unsubscribe (b : EventBus) (s : Subscription) : EventBus × Bool :=
  ({ b with listeners := b.listeners.filter (· != s) }, b.listeners.contains s)

def publish (b : EventBus) (e : Event) : EventBus :=
  { b with told := b.listeners.reverse.map (·, e) ++ b.told }

/-- Collects what has been told, first one first. -/
def collect (b : EventBus) : EventBus × List (Subscription × Event) :=
  ({ b with told := [] }, b.told.reverse)

def describe (b : EventBus) : String :=
  "EventBus \x7b listeners: " ++ toString b.listeners.length ++ " \x7d"

end EventBus

end CodeEditor
