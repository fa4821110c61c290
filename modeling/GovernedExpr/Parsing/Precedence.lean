import GovernedExpr.Text.Filing

/-!
# Precedence tables

A `PrecedenceTable` gives each of its operator symbols a level; a higher level binds tighter.  The
symbols stand in ascending order, so tables with the same levels are equal.

* `PrecedenceTable.insert` sets the level of a symbol;
* `PrecedenceTable.level?` looks a symbol up;
* `PrecedenceTable.arithmetic` is the table of the four operators of arithmetic.
-/

namespace GovernedExpr

open Text

/-- Levels of operator symbols, filed in ascending order of the symbols. -/
structure PrecedenceTable where
  entries : List (String × Nat)
  ascending : entries.Pairwise fun a b => a.1 < b.1
  deriving DecidableEq

namespace PrecedenceTable

/-- Without operators, every expression is a single operand. -/
def empty : PrecedenceTable := ⟨[], .nil⟩

instance : Inhabited PrecedenceTable := ⟨empty⟩

/-- Set the level of a symbol. -/
def insert (t : PrecedenceTable) (symbol : String) (level : Nat) : PrecedenceTable :=
  ⟨fileBy Prod.fst (symbol, level) t.entries, pairwise_fileBy t.ascending _⟩

/-- The level of a symbol, if it is an operator of the table. -/
def level? (t : PrecedenceTable) (symbol : String) : Option Nat :=
  t.entries.lookup symbol

/-- The number of operators. -/
def size (t : PrecedenceTable) : Nat :=
  t.entries.length

/-- Whether there are no operators. -/
def isEmpty (t : PrecedenceTable) : Bool :=
  t.entries.isEmpty

/-- Products bind tighter than sums. -/
def arithmetic : PrecedenceTable :=
  (((empty.insert "*" 20).insert "/" 20).insert "+" 10).insert "-" 10

@[simp] theorem level?_empty (symbol : String) : empty.level? symbol = none := rfl

/-- Setting a level changes the answer for its symbol only. -/
theorem level?_insert (t : PrecedenceTable) (symbol s : String) (level : Nat) :
    (t.insert symbol level).level? s = if s = symbol then some level else t.level? s := by
  simp only [insert, level?]
  induction t.entries with
  | nil => grind [fileBy]
  | cons e rest ih => grind [fileBy]

end PrecedenceTable

end GovernedExpr
