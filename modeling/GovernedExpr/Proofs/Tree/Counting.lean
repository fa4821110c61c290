import Mathlib.Algebra.Order.Ring.Nat
import GovernedExpr.Proofs.Parsing.Levelled
import GovernedExpr.Tree.Measure

/-!
# Measures of a tree by its operators

* `Tree.binaryCount` and `Tree.unaryCount` count the operators of a tree;
* `Tree.leafCount_eq`, `Tree.nodeCount_eq` and `Tree.depth_le` give the measures of a tree by the
  two counts, and `Tree.leafCount_le_two_pow` bounds the leaves of a tree by its depth;
* `Tree.nodeCount_eq_children` and its companions give the measures of a tree by those of its children;
* `Tree.length_reading` says that a tree is written in order with one symbol for each node.
-/

namespace GovernedExpr

namespace Tree

/-- The number of binary operators. -/
def binaryCount : Tree → Nat
  | .identifier _ => 0
  | .number _ => 0
  | .binary _ left right => left.binaryCount + right.binaryCount + 1
  | .unary _ operand => operand.binaryCount

/-- The number of unary operators. -/
def unaryCount : Tree → Nat
  | .identifier _ => 0
  | .number _ => 0
  | .binary _ left right => left.unaryCount + right.unaryCount
  | .unary _ operand => operand.unaryCount + 1

theorem leafCount_eq (t : Tree) : t.leafCount = t.binaryCount + 1 := by
  induction t with
  | identifier _ | number _ => rfl
  | binary _ left right ihl ihr => simp only [leafCount, binaryCount, ihl, ihr]; omega
  | unary _ operand ih => simp only [leafCount, binaryCount, ih]

theorem nodeCount_eq (t : Tree) : t.nodeCount = 2 * t.binaryCount + t.unaryCount + 1 := by
  induction t with
  | identifier _ | number _ => rfl
  | binary _ left right ihl ihr => simp only [nodeCount, binaryCount, unaryCount, ihl, ihr]; omega
  | unary _ operand ih => simp only [nodeCount, binaryCount, unaryCount, ih]; omega

theorem depth_le (t : Tree) : t.depth ≤ t.binaryCount + t.unaryCount + 1 := by
  induction t with
  | identifier _ | number _ => exact Nat.le_refl _
  | binary _ left right ihl ihr => simp only [depth, binaryCount, unaryCount]; omega
  | unary _ operand ih => simp only [depth, binaryCount, unaryCount]; omega

theorem nodeCount_eq_children (t : Tree) : t.nodeCount = 1 + (t.children.map nodeCount).sum := by
  cases t <;> simp [nodeCount, children, Nat.add_assoc]

theorem depth_eq_children (t : Tree) : t.depth = 1 + (t.children.map depth).max?.getD 0 := by
  cases t <;> simp [depth, children, List.max?]

theorem leafCount_eq_children (t : Tree) :
    t.leafCount = if t.isLeaf then 1 else (t.children.map leafCount).sum := by
  cases t <;> simp [leafCount, isLeaf, children]

/-- Each level has at most twice as many nodes as the one above it. -/
theorem leafCount_le_two_pow (t : Tree) : t.leafCount ≤ 2 ^ (t.depth - 1) := by
  induction t with
  | identifier _ | number _ => exact Nat.le_refl _
  | binary _ left right ihl ihr =>
    obtain ⟨below, same⟩ : ∃ k, max left.depth right.depth = k + 1 :=
      Nat.exists_eq_succ_of_ne_zero (by have := left.depth_pos; omega)
    calc left.leafCount + right.leafCount
      _ ≤ 2 ^ (left.depth - 1) + 2 ^ (right.depth - 1) := Nat.add_le_add ihl ihr
      _ ≤ 2 ^ below + 2 ^ below :=
        Nat.add_le_add (Nat.pow_le_pow_right (by decide) (by omega))
          (Nat.pow_le_pow_right (by decide) (by omega))
      _ = 2 ^ (1 + max left.depth right.depth - 1) := by
        rw [same, Nat.add_sub_cancel_left, Nat.pow_succ, Nat.mul_two]
  | unary _ operand ih =>
    have positive := operand.depth_pos
    calc operand.leafCount
      _ ≤ 2 ^ (operand.depth - 1) := ih
      _ ≤ 2 ^ (1 + operand.depth - 1) := Nat.pow_le_pow_right (by decide) (by omega)

theorem IsBinary.unaryCount_eq {t : Tree} (h : t.IsBinary) : t.unaryCount = 0 := by
  induction t with
  | identifier _ | number _ => rfl
  | binary _ left right ihl ihr => simp only [unaryCount, ihl h.1, ihr h.2]
  | unary _ _ _ => exact h.elim

/-- A tree is written in order with one symbol for each node. -/
theorem length_reading (t : Tree) : t.reading.length = t.nodeCount := by
  induction t with
  | identifier _ | number _ => rfl
  | binary _ left right ihl ihr =>
    simp only [reading, nodeCount, List.length_append, List.length_cons, ihl, ihr]
    omega
  | unary _ operand ih => simp only [reading, nodeCount, List.length_cons, ih]; omega

end Tree

end GovernedExpr
