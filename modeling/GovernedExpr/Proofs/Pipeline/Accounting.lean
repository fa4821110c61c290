import GovernedExpr.Proofs.Pipeline.Stages
import GovernedExpr.Proofs.Tree.Counting

/-!
# Tokens read and nodes built

Each token that is read becomes one node of the tree, and no token is read where there is no tree.

* `nodeCount_of_parse` and `position_of_parse_none` say so of parsing;
* `coordinate_of_binaryCount` gives the report on a tree without unary operators;
* `execute_accounting` says it of whole runs, for all governances, with or without tokens that are
  left over.
-/

namespace GovernedExpr

variable {p : ParserSettings} {ts : List Token} {t : Tree} {k : Nat}

/-- A parsed tree has one node for each token that was read, and binary operators only. -/
theorem nodeCount_of_parse (h : parse p ts = ⟨.ok (some t), k⟩) :
    t.nodeCount = k ∧ t.unaryCount = 0 ∧ k ≤ ts.length := by
  obtain ⟨outcome, rfl⟩ := Parsed.eq_mk_iff.1 h
  obtain ⟨first, tail, leaf, rest, halted, rfl, operand, run, position⟩ :=
    exists_climbs_of_parse outcome
  have respects := (run.respects (Token.ready_of_operand? operand) t rfl).1
  have written : t.reading ++ rest.map Token.symbol = (first :: tail).map Token.symbol := by
    have := run.reading_append t rfl
    rwa [Token.reading_of_operand? operand] at this
  have count := congrArg List.length written
  rw [List.length_append, Tree.length_reading, List.length_map, List.length_map] at count
  rw [position, ← count, Nat.add_sub_cancel]
  exact ⟨rfl, respects.isBinary.unaryCount_eq, Nat.le_add_right _ _⟩

/-- Where parsing gives no tree, it reads nothing. -/
theorem position_of_parse_none (h : parse p ts = ⟨.ok none, k⟩) : k = 0 := by
  cases ts with
  | nil => exact (Parsed.mk.inj h).2.symm
  | cons first rest =>
    cases operand : first.operand? with
    | none =>
      rw [parse_of_operand?_eq_none operand] at h
      split at h
      · cases h
      · exact (Parsed.mk.inj h).2.symm
    | some leaf =>
      rw [parse_of_expression (expression_cons operand)] at h
      cases hc : climb p 0 leaf rest <;> rw [hc] at h <;> cases h

/-- The report on a tree without unary operators, by the number of its binary operators. -/
theorem coordinate_of_binaryCount (passes : List Pass) (h : t.unaryCount = 0) :
    let r := coordinate passes (some t)
    r.nodeCount = 2 * t.binaryCount + 1 ∧ r.leafCount = t.binaryCount + 1 ∧ 1 ≤ r.depth ∧
      r.depth ≤ r.leafCount := by
  have depth := t.depth_le
  have nodes := t.nodeCount_eq
  have leaves := t.leafCount_eq
  rw [h] at depth nodes
  exact ⟨nodes, leaves, t.depth_pos, by simpa only [coordinate, leaves] using depth⟩

/-- **The nodes of the tree are the tokens that were read.**  Without a tree all counts are zero;
otherwise an odd number of tokens was read, as many as there are nodes, every other one of them is
a leaf, and the tree is no deeper than it has leaves. -/
theorem execute_accounting {s : GovernanceStore} {options : RunOptions} {source : String}
    {out : RunOutput} (h : s.execute options source = .ok out) :
    (out.tree = none → out.consumed = 0 ∧ out.report.nodeCount = 0 ∧ out.report.depth = 0 ∧
      out.report.leafCount = 0) ∧
    (out.tree ≠ none → out.consumed % 2 = 1 ∧ out.report.nodeCount = out.consumed ∧
      out.report.leafCount = (out.consumed + 1) / 2 ∧
      1 ≤ out.report.depth ∧ out.report.depth ≤ out.report.leafCount ∧
      out.consumed ≤ out.tokens.length) := by
  obtain ⟨-, hparse, hmeasure, -⟩ := GovernanceStore.execute_eq_ok_iff.1 h
  obtain ⟨p, -, hread, -⟩ := GovernanceStore.parse_eq_ok_iff.1 hparse
  obtain ⟨passes, -, hreport⟩ := GovernanceStore.measure_eq_ok_iff.1 hmeasure
  rw [← hreport]
  cases htree : out.tree with
  | none =>
    rw [htree] at hread
    exact ⟨fun _ => ⟨position_of_parse_none hread, rfl, rfl, rfl⟩, fun present => absurd rfl present⟩
  | some t =>
    rw [htree] at hread
    obtain ⟨nodes, unary, bounded⟩ := nodeCount_of_parse hread
    obtain ⟨hnodes, hleaves, hdepth, hle⟩ := coordinate_of_binaryCount passes unary
    have counted : (coordinate passes (some t)).nodeCount = out.consumed := nodes
    refine ⟨(nomatch ·), fun _ => ⟨?_, counted, ?_, hdepth, hle, bounded⟩⟩ <;> omega

/-- A run that leaves three tokens behind. -/
theorem execute_accounting_sumsFirst :
    let out := RunOutput.sumsFirst
    GovernanceStore.sumsFirst.execute ⟨none, false⟩ "a * b + 2 - @ c" = .ok out ∧
      (out.tree = none → out.consumed = 0 ∧ out.report.nodeCount = 0 ∧ out.report.depth = 0 ∧
        out.report.leafCount = 0) ∧
      (out.tree ≠ none → out.consumed % 2 = 1 ∧ out.report.nodeCount = out.consumed ∧
        out.report.leafCount = (out.consumed + 1) / 2 ∧
        1 ≤ out.report.depth ∧ out.report.depth ≤ out.report.leafCount ∧
        out.consumed ≤ out.tokens.length) :=
  ⟨GovernanceStore.execute_sumsFirst, execute_accounting GovernanceStore.execute_sumsFirst⟩

end GovernedExpr
