import GovernedExpr.Parsing.Precedence
import GovernedExpr.Text.Blank

/-!
# Settings of the parser

* `MissingOperand` is what happens at an operator without a right operand;
* `ParserSettings` holds it together with the table of levels;
* `ParserSettings.arithmetic` are the settings that hold when none are given.
-/

namespace GovernedExpr

/-- What to do where an operand is missing. -/
inductive MissingOperand
  /-- Report an error. -/
  | reject
  /-- Stop in front of the operator and keep the tree built so far. -/
  | truncate
  deriving DecidableEq, Inhabited

namespace MissingOperand

/-- The name of a policy. -/
def name : MissingOperand → String
  | reject => "reject"
  | truncate => "truncate"

/-- Read a policy by its name, in any case of ASCII letters and between blanks. -/
def ofText? (text : String) : Option MissingOperand :=
  let word := Text.plainWord text
  if word = "reject" then some reject
  else if word = "truncate" then some truncate
  else none

end MissingOperand

/-- The levels of the operators, and the policy for a missing operand. -/
structure ParserSettings where
  levels : PrecedenceTable
  missingOperand : MissingOperand
  deriving DecidableEq, Inhabited

/-- Arithmetic, with missing operands reported. -/
def ParserSettings.arithmetic : ParserSettings :=
  ⟨.arithmetic, .reject⟩

end GovernedExpr
