/-!
# Numbering

A `Numbering` hands out the numbers 1, 2, 3, … one after the other.
-/

namespace GovernedExpr

/-- A source of numbers, by the number that comes next. -/
structure Numbering where
  next : Nat
  deriving DecidableEq

namespace Numbering

/-- No number has been handed out. -/
def start : Numbering := ⟨1⟩

/-- Hand out a number. -/
def draw (n : Numbering) : Nat × Numbering :=
  (n.next, ⟨n.next + 1⟩)

end Numbering

end GovernedExpr
