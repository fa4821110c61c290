import GovernedExpr.Tree.Walk

/-!
# Trees as indented nested parentheses

A leaf is one line, `(Identifier x)` or `(Number 2)`.  An operator opens a parenthesis on a line
of its own, its children follow one level deeper, and `)` stands on a last line at the
operator's own indentation.  Each level is two blanks, and everything stands inside `(AST … )`.

* `Outline` is a text under construction together with its current level;
* `Outline.visitor` writes a tree into an outline;
* `lisp` is the text of a tree that may be absent.
-/

namespace GovernedExpr

/-- A text written line by line at a current level of indentation. -/
structure Outline where
  text : String
  level : Nat
  deriving DecidableEq

namespace Outline

/-- Nothing written, no indentation. -/
def empty : Outline := ⟨"", 0⟩

/-- The blanks in front of a line: two for each level. -/
def indentation (level : Nat) : String :=
  String.ofList (List.replicate (2 * level) ' ')

/-- Write one line at the current level. -/
def line (content : String) (o : Outline) : Outline :=
  { o with text := o.text ++ indentation o.level ++ content ++ "\n" }

/-- Open a parenthesis; what follows stands one level deeper. -/
def opening (head : String) (o : Outline) : Outline :=
  let o := o.line ("(" ++ head)
  { o with level := o.level + 1 }

/-- Go back one level and close the parenthesis there. -/
def closing (o : Outline) : Outline :=
  { o with level := o.level - 1 }.line ")"

/-- Leaves take one line; operators enclose their children. -/
def visitor : Visitor Outline where
  identifier name := line ("(Identifier " ++ name ++ ")")
  number text := line ("(Number " ++ text ++ ")")
  binary operator left right o := (right (left (o.opening ("BinOp " ++ operator)))).closing
  unary operator operand o := (operand (o.opening ("UnaryOp " ++ operator))).closing

end Outline

/-- The nested parentheses of a tree; an absent tree is the empty envelope. -/
def lisp (root : Option Tree) : String :=
  let o := Outline.empty.opening "AST"
  let o := match root with
    | none => o
    | some t => t.accept Outline.visitor o
  o.closing.text

end GovernedExpr
