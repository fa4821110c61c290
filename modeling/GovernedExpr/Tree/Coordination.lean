import GovernedExpr.Tree.Measure

/-!
# Coordination

After parsing, the tree is measured and the passes over it are listed with whether they are
enabled.  The tree itself stays as it is.

* `Pass` is a named pass;
* `Report` is what is learned about a tree, `Report.enabled` names the enabled passes;
* `coordinate` makes the report.
-/

namespace GovernedExpr

/-- A pass over the tree, enabled or not. -/
structure Pass where
  name : String
  enabled : Bool
  deriving DecidableEq

/-- The measures of a tree, and all passes in the order of the governance. -/
structure Report where
  nodeCount : Nat
  depth : Nat
  leafCount : Nat
  passes : List Pass
  deriving DecidableEq

/-- The names of the enabled passes. -/
def Report.enabled (r : Report) : List String :=
  (r.passes.filter Pass.enabled).map Pass.name

/-- Measure a tree and list the passes; an absent tree measures zero. -/
def coordinate (passes : List Pass) : Option Tree → Report
  | none => ⟨0, 0, 0, passes⟩
  | some t => ⟨t.nodeCount, t.depth, t.leafCount, passes⟩

end GovernedExpr
