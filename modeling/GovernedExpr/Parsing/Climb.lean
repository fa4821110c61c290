import GovernedExpr.Parsing.Settings
import GovernedExpr.Parsing.Error
import GovernedExpr.Tree.Basic

/-!
# Precedence climbing

An expression is an operand, followed by any number of operators with their right sides.  At a
minimum level `m`, only operators of level `m` or above continue it, and the right side of an
operator of level `l` is an expression at minimum level `l + 1`; so operators of one level
associate to the left.

* `climb` continues a left operand through the tokens that follow it;
* `expression` reads an operand and continues it;
* `parse` reads the expression at the start of a list of tokens and tells how many tokens it
  consumed.
-/

namespace GovernedExpr

/-- The leaf of a token that is an operand. -/
def Token.operand? (t : Token) : Option Tree :=
  match t.kind with
  | .identifier => some (.identifier t.value)
  | .number => some (.number t.value)
  | _ => none

/-- The level of a token that is an operator of the table. -/
def PrecedenceTable.levelOf? (table : PrecedenceTable) (t : Token) : Option Nat :=
  if t.kind = .operator then table.level? t.value else none

/-- What reading an expression comes to. -/
inductive Climb
  /-- A tree, the tokens after it, and whether reading was stopped by a missing operand. -/
  | tree (t : Tree) (rest : List Token) (halted : Bool)
  /-- An operator without a right operand, and the tokens after it. -/
  | missing (operator : Token) (rest : List Token)
  deriving DecidableEq

/-- The tokens that were not read. -/
def Climb.rest : Climb → List Token
  | tree _ rest _ => rest
  | missing _ rest => rest

/-- What a missing right operand of an operator comes to, the left operand being read. -/
def ParserSettings.dangling (p : ParserSettings) (left : Tree) (operator : Token)
    (rest : List Token) : Climb :=
  match p.missingOperand with
  | .reject => .missing operator rest
  | .truncate => .tree left (operator :: rest) true

theorem ParserSettings.length_rest_dangling (p : ParserSettings) (left : Tree) (operator : Token)
    (rest : List Token) : (p.dangling left operator rest).rest.length ≤ rest.length + 1 := by
  unfold dangling
  split <;> simp [Climb.rest]

/-- Continue a left operand through the operators of a minimum level that follow it; reading
never lengthens what is left to read. -/
def climbWithin (p : ParserSettings) (minLevel : Nat) (left : Tree) :
    (tokens : List Token) → { c : Climb // c.rest.length ≤ tokens.length }
  | [] => ⟨.tree left [] false, Nat.le_refl _⟩
  | operator :: rest =>
    match p.levels.levelOf? operator with
    | none => ⟨.tree left (operator :: rest) false, Nat.le_refl _⟩
    | some level =>
      if level < minLevel then ⟨.tree left (operator :: rest) false, Nat.le_refl _⟩
      else
        match rest with
        | [] => ⟨p.dangling left operator [], p.length_rest_dangling left operator []⟩
        | first :: tail =>
          match first.operand? with
          | none => ⟨p.dangling left operator (first :: tail),
              p.length_rest_dangling left operator (first :: tail)⟩
          | some leaf =>
            match climbWithin p (level + 1) leaf tail with
            | ⟨.missing dangling after, h⟩ =>
              ⟨.missing dangling after, by simp only [Climb.rest, List.length_cons] at h ⊢; omega⟩
            | ⟨.tree right after true, h⟩ =>
              ⟨.tree (.binary operator.value left right) after true, by
                simp only [Climb.rest, List.length_cons] at h ⊢; omega⟩
            | ⟨.tree right after false, h⟩ =>
              let next := climbWithin p minLevel (.binary operator.value left right) after
              ⟨next.1, by
                have := next.2
                simp only [Climb.rest, List.length_cons] at h this ⊢; omega⟩
  termination_by tokens => tokens.length
  decreasing_by
    all_goals simp only [Climb.rest, List.length_cons] at *; omega

/-- Continue a left operand through the operators of a minimum level that follow it. -/
def climb (p : ParserSettings) (minLevel : Nat) (left : Tree) (tokens : List Token) : Climb :=
  (climbWithin p minLevel left tokens).1

/-- Read an expression at a minimum level; there is none where no operand stands first. -/
def expression (p : ParserSettings) (minLevel : Nat) : List Token → Option Climb
  | [] => none
  | first :: rest => first.operand?.map fun leaf => climb p minLevel leaf rest

/-- The outcome of reading an expression, and the number of tokens it consumed. -/
structure Parsed where
  outcome : Except ParseError (Option Tree)
  position : Nat

/-- Read the expression at the start of the tokens; what follows it is left alone.  No tokens
at all are no tree, and no error. -/
def parse (p : ParserSettings) (tokens : List Token) : Parsed :=
  match tokens with
  | [] => ⟨.ok none, 0⟩
  | first :: _ =>
    match expression p 0 tokens with
    | none =>
      match p.missingOperand with
      | .reject => ⟨.error (.expectedOperand first.value first.kind first.column), 0⟩
      | .truncate => ⟨.ok none, 0⟩
    | some (.tree t rest _) => ⟨.ok (some t), tokens.length - rest.length⟩
    | some (.missing operator rest) =>
      ⟨.error (.missingOperand operator.value operator.column), tokens.length - rest.length⟩

/-- Read the tokens as one expression; a token left over is an error. -/
def parseComplete (p : ParserSettings) (tokens : List Token) : Parsed :=
  let parsed := parse p tokens
  match parsed.outcome, tokens[parsed.position]? with
  | .ok _, some t => { parsed with outcome := .error (.unexpectedToken t.value t.kind t.column) }
  | _, _ => parsed

end GovernedExpr
