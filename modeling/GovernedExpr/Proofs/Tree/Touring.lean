import GovernedExpr.Proofs.Tree.Counting
import GovernedExpr.Tree.Walk

/-!
# Tours of a tree

A visitor that descends from left to right walks each operand of a node once.  It may do something when
it comes to a node, between the operands of a node, and when it goes back from a node.  So its walk is a
tour of the tree, whatever the visitor does on the way.

* `Passage` tells these three occasions apart, and `Visitor.touring` is the visitor with an action for each;
* `Tree.tour` lists the passages of a tree, and `Tree.accept_touring` says that the visitor acts in this
  order;
* `Tree.filterMap_tour` says that nodes are come to in preorder, `Tree.length_preorder` and its companions
  count them by their variants;
* `measures_consistent` puts these together with the measures of the tree.
-/

namespace GovernedExpr

/-- A place on the way through a tree. -/
inductive Passage
  /-- A node is come to. -/
  | arrival (l : Label)
  /-- The left operand of a node is done, and the right one is not. -/
  | between (l : Label)
  /-- All operands of a node are done. -/
  | departure (l : Label)

/-- The node that is come to. -/
def Passage.arrived? : Passage → Option Label
  | arrival l => some l
  | between _ => none
  | departure _ => none

@[simp] theorem Passage.arrived?_arrival (l : Label) : (arrival l).arrived? = some l := rfl

@[simp] theorem Passage.arrived?_between (l : Label) : (between l).arrived? = none := rfl

@[simp] theorem Passage.arrived?_departure (l : Label) : (departure l).arrived? = none := rfl

/-- The visitor that descends from left to right with an action at each passage. -/
def Visitor.touring {σ : Type} (act : Passage → σ → σ) : Visitor σ where
  identifier name := act (.arrival (.identifier name))
  number text := act (.arrival (.number text))
  binary operator left right s :=
    let s := left (act (.arrival (.binary operator)) s)
    act (.departure (.binary operator)) (right (act (.between (.binary operator)) s))
  unary operator operand s :=
    act (.departure (.unary operator)) (operand (act (.arrival (.unary operator)) s))

/-- A node without operands. -/
def Label.isLeaf : Label → Bool
  | identifier _ => true
  | number _ => true
  | binary _ => false
  | unary _ => false

namespace Tree

/-- The passages of a tree in their order. -/
def tour : Tree → List Passage
  | .identifier name => [.arrival (.identifier name)]
  | .number text => [.arrival (.number text)]
  | .binary operator left right =>
    .arrival (.binary operator) :: (left.tour ++ .between (.binary operator) :: right.tour ++
      [.departure (.binary operator)])
  | .unary operator operand =>
    .arrival (.unary operator) :: (operand.tour ++ [.departure (.unary operator)])

/-- A visitor that descends from left to right acts along the tour. -/
theorem accept_touring {σ : Type} (act : Passage → σ → σ) (t : Tree) (s : σ) :
    t.accept (Visitor.touring act) s = t.tour.foldl (fun s p => act p s) s := by
  induction t generalizing s with
  | identifier name => rfl
  | number text => rfl
  | binary operator left right ihl ihr =>
    show act _ (right.accept _ (act _ (left.accept _ (act _ s)))) = _
    rw [ihl, ihr, tour]
    simp only [List.foldl_cons, List.foldl_append, List.foldl_nil]
  | unary operator operand ih =>
    show act _ (operand.accept _ (act _ s)) = _
    rw [ih, tour]
    simp only [List.foldl_cons, List.foldl_append, List.foldl_nil]

/-- Nodes are come to in preorder. -/
theorem filterMap_tour (t : Tree) : t.tour.filterMap Passage.arrived? = t.preorder := by
  induction t with
  | identifier name => rfl
  | number text => rfl
  | binary operator left right ihl ihr => simp [tour, preorder, List.filterMap_cons, ihl, ihr]
  | unary operator operand ih => simp [tour, preorder, ih]

theorem length_preorder (t : Tree) : t.preorder.length = t.nodeCount := by
  induction t with
  | identifier _ | number _ => rfl
  | binary _ left right ihl ihr =>
    rw [preorder, List.length_cons, List.length_append, ihl, ihr, nodeCount]
    omega
  | unary _ operand ih =>
    rw [preorder, List.length_cons, ih, nodeCount]
    omega

theorem countP_isLeaf_preorder (t : Tree) : t.preorder.countP Label.isLeaf = t.leafCount := by
  induction t with
  | identifier _ | number _ => rfl
  | binary _ left right ihl ihr =>
    rw [preorder, List.countP_cons_of_neg Bool.false_ne_true, List.countP_append, ihl, ihr, leafCount]
  | unary _ operand ih => rw [preorder, List.countP_cons_of_neg Bool.false_ne_true, ih, leafCount]

/-- The two counts of operators are those of their labels. -/
theorem count_variant_preorder (t : Tree) :
    (t.preorder.map Label.variant).count "BinaryOp" = t.binaryCount ∧
      (t.preorder.map Label.variant).count "UnaryOp" = t.unaryCount := by
  induction t with
  | identifier _ | number _ => simp [preorder, Label.variant, binaryCount, unaryCount]
  | binary _ left right ihl ihr =>
    simp [preorder, Label.variant, binaryCount, unaryCount, ihl, ihr]
  | unary _ operand ih =>
    simp [preorder, Label.variant, binaryCount, unaryCount, ih]

end Tree

/-- **The measures of a tree agree with each other and with its walks.**  A tree with `b` binary and `u`
unary operators has `b + 1` leaves and `2 b + u + 1` nodes, is at most `b + u + 1` deep, and has no more
leaves than its depth allows.  A visitor that descends from left to right, whatever it does on the way,
comes to as many nodes as the tree has, in preorder, and to as many leaves as it has. -/
theorem measures_consistent (t : Tree) :
    (t.leafCount = t.binaryCount + 1 ∧ t.nodeCount = 2 * t.binaryCount + t.unaryCount + 1 ∧
      t.depth ≤ t.binaryCount + t.unaryCount + 1 ∧ t.leafCount ≤ 2 ^ (t.depth - 1)) ∧
    (∀ (σ : Type) (act : Passage → σ → σ) (s : σ),
      t.accept (Visitor.touring act) s = t.tour.foldl (fun s p => act p s) s) ∧
    t.tour.filterMap Passage.arrived? = t.preorder ∧
    t.preorder.length = t.nodeCount ∧
    t.preorder.countP Label.isLeaf = t.leafCount ∧
    (t.preorder.map Label.variant).count "BinaryOp" = t.binaryCount ∧
    (t.preorder.map Label.variant).count "UnaryOp" = t.unaryCount := by
  refine ⟨⟨t.leafCount_eq, t.nodeCount_eq, t.depth_le, t.leafCount_le_two_pow⟩, ?_, t.filterMap_tour,
    t.length_preorder, t.countP_isLeaf_preorder, t.count_variant_preorder⟩
  intro σ act s
  exact t.accept_touring act s

end GovernedExpr
