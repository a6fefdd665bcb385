import Mathlib.Algebra.GroupWithZero.Nat

/-! # Numbers of a machine

Sums and differences that answer only where a machine can hold them.
-/

namespace CodeEditor.Machine

def isWord (n : Nat) : Bool := n < 2 ^ 64

/-- The number, if it is one of those that `counts` can hold. -/
def held? (counts : Nat → Bool) (n : Nat) : Option Nat := if counts n then some n else none

def sub? (a b : Nat) : Option Nat := if b ≤ a then some (a - b) else none

/-- The sum, if it is a number of 64 bits. -/
def add? (a b : Nat) : Option Nat := if a + b < 2 ^ 64 then some (a + b) else none

theorem held?_eq {counts : Nat → Bool} {n : Nat} (h : counts n) : held? counts n = some n := if_pos h

theorem sub?_eq {a b : Nat} (h : b ≤ a) : sub? a b = some (a - b) := if_pos h

theorem add?_eq {a b : Nat} (h : a + b < 2 ^ 64) : add? a b = some (a + b) := if_pos h

end CodeEditor.Machine
