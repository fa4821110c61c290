import GovernedExpr.Lexing.Token

/-!
# Errors of parsing

`ParseError` lists the causes, each with the token it is about; positions are columns.
-/

namespace GovernedExpr

/-- Why tokens are not an expression. -/
inductive ParseError
  /-- A binary operator has nothing usable on its right. -/
  | missingOperand (operator : String) (position : Nat)
  /-- The first token is no operand. -/
  | expectedOperand (found : String) (kind : TokenKind) (position : Nat)
  /-- A token is left over after a whole expression. -/
  | unexpectedToken (value : String) (kind : TokenKind) (position : Nat)
  deriving DecidableEq

/-- The text of an error of parsing. -/
def ParseError.message : ParseError → String
  | missingOperand operator position =>
    "Operator '" ++ operator ++ "' at position " ++ toString position ++
      " is missing its right operand"
  | expectedOperand found kind position =>
    "Expected an identifier or number at position " ++ toString position ++ ", found " ++
      kind.name ++ " '" ++ found ++ "'"
  | unexpectedToken value kind position =>
    "Unexpected " ++ kind.name ++ " token '" ++ value ++ "' at position " ++ toString position

end GovernedExpr
