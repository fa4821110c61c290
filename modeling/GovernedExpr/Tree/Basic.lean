/-!
# Expression trees

* `Tree` is the type of expression trees: identifiers and numbers at the leaves, binary and
  unary operators above them;
* `Label` is what a node says on its own, without its children;
* `Tree.children`, `Tree.isLeaf` and `Tree.label` look at the root.

Unary operators belong to the vocabulary of trees, although no expression is read as one.
-/

namespace GovernedExpr

/-- An expression tree. -/
inductive Tree
  | identifier (name : String)
  | number (text : String)
  | binary (operator : String) (left right : Tree)
  | unary (operator : String) (operand : Tree)
  deriving DecidableEq, Inhabited

/-- A node without its children. -/
inductive Label
  | identifier (name : String)
  | number (text : String)
  | binary (operator : String)
  | unary (operator : String)
  deriving DecidableEq

/-- The name of the variant of a node. -/
def Label.variant : Label → String
  | .identifier _ => "Identifier"
  | .number _ => "Number"
  | .binary _ => "BinaryOp"
  | .unary _ => "UnaryOp"

namespace Tree

/-- The root without its children. -/
def label : Tree → Label
  | .identifier name => .identifier name
  | .number text => .number text
  | .binary operator _ _ => .binary operator
  | .unary operator _ => .unary operator

/-- The direct children, from left to right. -/
def children : Tree → List Tree
  | .identifier _ => []
  | .number _ => []
  | .binary _ left right => [left, right]
  | .unary _ operand => [operand]

/-- Whether the root has no children. -/
def isLeaf : Tree → Bool
  | .identifier _ => true
  | .number _ => true
  | .binary .. => false
  | .unary .. => false

end Tree

end GovernedExpr
