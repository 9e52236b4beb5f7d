/-!
# Tables of code point ranges

A Unicode property is an array of closed ranges of code points.  A case mapping is an array of
shifts, each of which moves a run of code points by one distance.
-/

namespace PageGuard.Text

/-- Whether a code point lies in one of the ranges. -/
def inRanges (table : Array (Nat × Nat)) (n : Nat) : Bool :=
  table.any fun r => r.1 ≤ n && n ≤ r.2

/-- The code points `lo, lo + step, … hi`, moved so that `lo` goes to `target`. -/
structure Shift where
  lo : Nat
  hi : Nat
  step : Nat
  target : Nat
deriving DecidableEq

/-- Whether a shift moves this code point. -/
def Shift.covers (s : Shift) (n : Nat) : Bool :=
  s.lo ≤ n && n ≤ s.hi && (n - s.lo) % s.step == 0

/-- Where a shift moves a code point that it covers. -/
def Shift.move (s : Shift) (n : Nat) : Nat := s.target + (n - s.lo)

/-- The code point that a shift moves to this one. -/
def Shift.source? (s : Shift) (n : Nat) : Option Nat :=
  if s.target ≤ n && s.covers (s.lo + (n - s.target)) then some (s.lo + (n - s.target)) else none

/-- The image of a code point under the first shift that covers it, or itself. -/
def shifted (table : Array Shift) (n : Nat) : Nat :=
  match table.find? (·.covers n) with
  | some s => s.move n
  | none => n

end PageGuard.Text
