/-! # Stretches of positions -/

namespace CodeEditor

/-- The positions from `start` up to, but not including, `stop`. A span whose `stop` does not lie
after its `start` holds no position. -/
structure Span where
  start : Nat
  stop : Nat
  deriving DecidableEq, Repr, Inhabited

namespace Span

/-- The span that holds no position and stands at `position`. -/
def point (position : Nat) : Span := ⟨position, position⟩

def isEmpty (s : Span) : Bool := s.stop ≤ s.start

def size (s : Span) : Nat := s.stop - s.start

/-- The span cut to positions up to `limit`; a reversed span becomes empty at its start. -/
def clamp (s : Span) (limit : Nat) : Span :=
  let start := min s.start limit
  ⟨start, max start (min s.stop limit)⟩

theorem clamp_start_le (s : Span) (limit : Nat) : (s.clamp limit).start ≤ limit := by
  simp only [clamp]; omega

theorem clamp_stop_le (s : Span) (limit : Nat) : (s.clamp limit).stop ≤ limit := by
  simp only [clamp]; omega

theorem clamp_ordered (s : Span) (limit : Nat) : (s.clamp limit).start ≤ (s.clamp limit).stop := by
  simp only [clamp]; omega

theorem clamp_eq_self {s : Span} {limit : Nat} (ordered : s.start ≤ s.stop)
    (inside : s.stop ≤ limit) : s.clamp limit = s := by
  cases s; simp only [clamp] at *; congr <;> omega

theorem clamp_clamp (s : Span) (limit : Nat) : (s.clamp limit).clamp limit = s.clamp limit :=
  clamp_eq_self (clamp_ordered s limit) (clamp_stop_le s limit)

end Span

end CodeEditor
