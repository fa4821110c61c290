import GovernedExpr.Tree.Basic

/-!
# Walking a tree

A `Visitor` says what is done at a node of each variant.  At an operator it is handed one walk
for each child, and descends into the child by running that walk, or leaves the child alone.

* `Tree.accept` dispatches a tree to a visitor;
* `Visitor.ignore` does nothing anywhere, and `Visitor.descend` visits every node before its
  children, which stand from left to right;
* `Tree.preorder` lists the labels in the order of `Visitor.descend`.
-/

namespace GovernedExpr

/-- What to do at a node, as a change of a state `σ`. -/
structure Visitor (σ : Type) where
  identifier : String → σ → σ
  number : String → σ → σ
  binary : String → (left right : σ → σ) → σ → σ
  unary : String → (operand : σ → σ) → σ → σ

/-- Run the action of the visitor for the root. -/
def Tree.accept {σ : Type} (v : Visitor σ) : Tree → σ → σ
  | .identifier name => v.identifier name
  | .number text => v.number text
  | .binary operator left right => v.binary operator (left.accept v) (right.accept v)
  | .unary operator operand => v.unary operator (operand.accept v)

namespace Visitor

variable {σ : Type}

/-- The visitor that changes nothing and descends nowhere. -/
def ignore : Visitor σ where
  identifier _ := id
  number _ := id
  binary _ _ _ := id
  unary _ _ := id

/-- The visitor that runs an action at every node, and after it descends from left to right. -/
def descend (enter : Label → σ → σ) : Visitor σ where
  identifier name := enter (.identifier name)
  number text := enter (.number text)
  binary operator left right s := right (left (enter (.binary operator) s))
  unary operator operand s := operand (enter (.unary operator) s)

end Visitor

namespace Tree

/-- The labels of all nodes: a node before its children, children from left to right. -/
def preorder : Tree → List Label
  | .identifier name => [.identifier name]
  | .number text => [.number text]
  | .binary operator left right => .binary operator :: (left.preorder ++ right.preorder)
  | .unary operator operand => .unary operator :: operand.preorder

/-- A descending visitor meets the labels in preorder. -/
theorem accept_descend {σ : Type} (enter : Label → σ → σ) (t : Tree) (s : σ) :
    t.accept (Visitor.descend enter) s = t.preorder.foldl (fun s l => enter l s) s := by
  induction t generalizing s with
  | identifier name => rfl
  | number text => rfl
  | binary operator left right ihl ihr =>
    simp [accept, Visitor.descend, preorder, List.foldl_append] at ihl ihr ⊢
    rw [ihl, ihr]
  | unary operator operand ih =>
    simp [accept, Visitor.descend, preorder] at ih ⊢
    rw [ih]

/-- The labels that a descending visitor meets, in the order in which it meets them. -/
def visits (t : Tree) : List Label :=
  (t.accept (Visitor.descend fun l seen => l :: seen) []).reverse

@[simp] theorem visits_eq_preorder (t : Tree) : t.visits = t.preorder := by
  have snoc : ∀ (ls seen : List Label),
      ls.foldl (fun s l => l :: s) seen = ls.reverse ++ seen := by
    intro ls
    induction ls with
    | nil => simp
    | cons l ls ih => simp [ih]
  simp [visits, accept_descend, snoc]

end Tree

end GovernedExpr
