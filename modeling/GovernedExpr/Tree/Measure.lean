import GovernedExpr.Tree.Basic

/-!
# Measures of a tree

* `Tree.nodeCount` counts all nodes;
* `Tree.depth` is the number of nodes on a longest path from the root to a leaf;
* `Tree.leafCount` counts the leaves;
* `nodeCount?` counts the nodes of a tree that may be absent.
-/

namespace GovernedExpr

namespace Tree

/-- The number of nodes. -/
def nodeCount : Tree → Nat
  | .identifier _ => 1
  | .number _ => 1
  | .binary _ left right => 1 + left.nodeCount + right.nodeCount
  | .unary _ operand => 1 + operand.nodeCount

/-- The number of nodes on a longest path from the root to a leaf. -/
def depth : Tree → Nat
  | .identifier _ => 1
  | .number _ => 1
  | .binary _ left right => 1 + max left.depth right.depth
  | .unary _ operand => 1 + operand.depth

/-- The number of leaves. -/
def leafCount : Tree → Nat
  | .identifier _ => 1
  | .number _ => 1
  | .binary _ left right => left.leafCount + right.leafCount
  | .unary _ operand => operand.leafCount

theorem depth_pos (t : Tree) : 0 < t.depth := by
  cases t <;> simp only [depth] <;> omega

end Tree

/-- The number of nodes of a tree that may be absent. -/
def nodeCount? : Option Tree → Nat
  | none => 0
  | some t => t.nodeCount

end GovernedExpr
