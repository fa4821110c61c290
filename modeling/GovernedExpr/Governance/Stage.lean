/-!
# Stages

An expression passes through four stages: it is cut into tokens, the tokens are read as a tree,
the tree is measured, and it is written in a format.  Each stage is governed by a record of its
own.

* `Stage` is the type of stages, `Stage.all` lists them in the order of the pipeline;
* `Stage.id` numbers them from 0, `Stage.ofId?` is its inverse;
* `Stage.label` and `Stage.fileName` name a stage and the document that governs it.
-/

namespace GovernedExpr

/-- The stages of the pipeline. -/
inductive Stage
  /-- From lexemes to tokens. -/
  | tokenizer
  /-- From tokens to a tree. -/
  | parser
  /-- Measures of the tree, and the passes over it. -/
  | coordinator
  /-- The tree in a format. -/
  | output
  deriving DecidableEq, Inhabited

namespace Stage

/-- All stages, in the order of the pipeline. -/
def all : List Stage := [tokenizer, parser, coordinator, output]

@[simp] theorem mem_all (s : Stage) : s ∈ all := by
  cases s <;> decide

/-- The number of a stage. -/
def id : Stage → Nat
  | tokenizer => 0
  | parser => 1
  | coordinator => 2
  | output => 3

/-- The stage with a number. -/
def ofId? : Int → Option Stage
  | 0 => some tokenizer
  | 1 => some parser
  | 2 => some coordinator
  | 3 => some output
  | _ => none

@[simp] theorem ofId?_id (s : Stage) : ofId? s.id = some s := by
  cases s <;> rfl

theorem ofId?_eq_some_iff {id : Int} {stage : Stage} : ofId? id = some stage ↔ id = stage.id := by
  constructor
  · intro h
    unfold ofId? at h
    split at h <;> cases h <;> rfl
  · rintro rfl
    exact ofId?_id stage

theorem ofId?_eq_none {id : Int} (h : id < 0 ∨ 3 < id) : ofId? id = none := by
  cases hid : ofId? id with
  | none => rfl
  | some stage =>
    have := ofId?_eq_some_iff.1 hid
    cases stage <;> simp only [Stage.id] at this <;> omega

theorem exists_id_eq {id : Int} (h : 0 ≤ id ∧ id ≤ 3) : ∃ stage : Stage, id = stage.id := by
  obtain rfl | rfl | rfl | rfl : id = 0 ∨ id = 1 ∨ id = 2 ∨ id = 3 := by omega
  · exact ⟨tokenizer, rfl⟩
  · exact ⟨parser, rfl⟩
  · exact ⟨coordinator, rfl⟩
  · exact ⟨output, rfl⟩

/-- The label of a stage. -/
def label : Stage → String
  | tokenizer => "RIFT-0"
  | parser => "RIFT-1"
  | coordinator => "RIFT-2"
  | output => "RIFT-3"

/-- The name of the file that holds the document of a stage. -/
def fileName (s : Stage) : String :=
  "riftrc." ++ toString s.id ++ ".yaml"

end Stage

end GovernedExpr
