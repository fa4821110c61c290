import GovernedExpr.Text.CodeSet

/-!
# Run lengths

A set of code points is written as the lengths of its runs: how many code points from U+0000 on
are outside, how many after them inside, how many outside, and so on.  The lengths are decimal
numerals separated by blanks, cut into lines of any length.

* `runs` reads the lengths;
* `setOfRuns` is the set that they describe.
-/

namespace GovernedExpr.Unicode

open GovernedExpr.Text

/-- The numerals of a line. -/
def numerals (line : String) : List Nat :=
  let (pending, done) := line.toList.foldr
    (fun c (state : (List Nat × List Nat)) =>
      let (digits, done) := state
      if c = ' ' then ([], digits.foldl (fun n d => n * 10 + d) 0 :: done)
      else ((c.toNat - '0'.toNat) :: digits, done))
    ([], [])
  pending.foldl (fun n d => n * 10 + d) 0 :: done

/-- The lengths written on the lines. -/
def runs (lines : List String) : List Nat :=
  lines.flatMap numerals

/-- The ranges inside, for lengths that start outside at a code point. -/
def insideRanges (start : Nat) : List Nat → List (Nat × Nat)
  | outside :: inside :: rest =>
    let lo := start + outside
    (lo, lo + inside - 1) :: insideRanges (lo + inside) rest
  | _ => []

/-- The set that the lengths of its runs describe. -/
def setOfRuns (lines : List String) : CodeSet :=
  .ofRanges (insideRanges 0 (runs lines))

end GovernedExpr.Unicode
