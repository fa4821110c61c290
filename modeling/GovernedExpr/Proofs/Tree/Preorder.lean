import GovernedExpr.Tree.Walk

/-!
# Trees from their labels

In preorder every label stands in front of the labels of its children, and a label tells how many
children there are.  So a tree is determined by its labels in preorder, without any parentheses.

* `Label.attach?` puts a label on top of the trees that become its children;
* `Tree.ofPreorder?` reads a tree that may be absent from labels in preorder;
* `Tree.ofPreorder?_preorder` says that this gives the tree back.
-/

namespace GovernedExpr

/-- Put a label on the first trees of a stack, as many as it has children. -/
def Label.attach? : Label → List Tree → Option (List Tree)
  | .identifier name, trees => some (.identifier name :: trees)
  | .number text, trees => some (.number text :: trees)
  | .binary operator, left :: right :: trees => some (.binary operator left right :: trees)
  | .unary operator, operand :: trees => some (.unary operator operand :: trees)
  | _, _ => none

namespace Tree

/-- Read labels from the last one to the first, each on top of the trees that follow it. -/
def attachAll (labels : List Label) (trees : Option (List Tree)) : Option (List Tree) :=
  labels.foldr (fun l stack => stack.bind l.attach?) trees

@[simp] theorem attachAll_nil (trees : Option (List Tree)) : attachAll [] trees = trees := rfl

@[simp] theorem attachAll_cons (l : Label) (labels : List Label) (trees : Option (List Tree)) :
    attachAll (l :: labels) trees = (attachAll labels trees).bind l.attach? := rfl

@[simp] theorem attachAll_append (labels more : List Label) (trees : Option (List Tree)) :
    attachAll (labels ++ more) trees = attachAll labels (attachAll more trees) := by
  simp [attachAll, List.foldr_append]

/-- The labels of a tree put this tree on the stack, whatever is there already. -/
theorem attachAll_preorder (t : Tree) (trees : List Tree) :
    attachAll t.preorder (some trees) = some (t :: trees) := by
  induction t generalizing trees with
  | identifier name => rfl
  | number text => rfl
  | binary operator left right ihl ihr => simp [preorder, ihl, ihr, Label.attach?]
  | unary operator operand ih => simp [preorder, ih, Label.attach?]

/-- The tree with labels in preorder: no labels are those of an absent tree. -/
def ofPreorder? (labels : List Label) : Option (Option Tree) :=
  match attachAll labels (some []) with
  | some [] => some none
  | some [t] => some (some t)
  | _ => none

/-- The labels of a tree that may be absent. -/
def preorder? (root : Option Tree) : List Label :=
  root.elim [] preorder

/-- **A tree is determined by its labels in preorder.** -/
theorem ofPreorder?_preorder? (root : Option Tree) : ofPreorder? (preorder? root) = some root := by
  cases root with
  | none => rfl
  | some t => simp [ofPreorder?, preorder?, attachAll_preorder]

end Tree

end GovernedExpr
