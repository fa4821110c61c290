import GovernedExpr.Proofs.Governance.Sections
import GovernedExpr.Proofs.Outcomes

/-!
# Keys with an ending

Settings are derived from the keys of a section that are a name in capitals with an ending, one key
after the other.

* `stemOf?_eq_some_iff` says which keys have an ending, and what the name in front of it is;
* `StageRecord.named` lists the names in front of an ending in a section with the values of their keys.
-/

namespace GovernedExpr

/-! ### Names and endings -/

/-- The name in front of an ending. -/
theorem stemOf?_eq_some_iff {ending key name : String} :
    stemOf? ending key = some name ↔ key = name ++ ending ∧ isCapitalName name.toList = true := by
  unfold stemOf?
  simp only [Option.ite_none_right_eq_some, Bool.and_eq_true, decide_eq_true_eq, Option.some.injEq]
  constructor
  · rintro ⟨⟨whole, capitals⟩, rfl⟩
    refine ⟨?_, by rwa [String.toList_ofList]⟩
    rw [← String.toList_inj, String.toList_append, String.toList_ofList, whole]
  · rintro ⟨rfl, capitals⟩
    simp [capitals]

/-! ### The names in a section -/

namespace StageRecord

variable {r : StageRecord} {heading ending name value : String}

/-- The names in capitals that stand in front of an ending in the keys of a section, each with the value
of its key, in the order in which the keys were first added. -/
def named (r : StageRecord) (heading ending : String) : List (String × String) :=
  (r.sectionOf heading).filterMap fun pair => (stemOf? ending pair.1).map fun name => (name, pair.2)

/-- The names in capitals that stand in front of an ending in the keys of a section. -/
def names (r : StageRecord) (heading ending : String) : List String :=
  (r.named heading ending).map Prod.fst

theorem mem_named_iff : (name, value) ∈ r.named heading ending ↔
    isCapitalName name.toList = true ∧ r.get? heading (name ++ ending) = some value := by
  simp only [named, List.mem_filterMap, Prod.exists, mem_sectionOf_iff, Option.map_eq_some_iff,
    stemOf?_eq_some_iff, Prod.mk.injEq]
  constructor
  · rintro ⟨_, _, found, _, ⟨rfl, capitals⟩, rfl, rfl⟩
    exact ⟨capitals, found⟩
  · rintro ⟨capitals, found⟩
    exact ⟨_, _, found, name, ⟨rfl, capitals⟩, rfl, rfl⟩

theorem mem_names_iff : name ∈ r.names heading ending ↔
    isCapitalName name.toList = true ∧ ∃ value, r.get? heading (name ++ ending) = some value := by
  simp only [names, List.mem_map, Prod.exists, exists_and_right, exists_eq_right, mem_named_iff,
    exists_and_left]

/-- The names and the values that are found for their keys tell all. -/
theorem named_eq_map (r : StageRecord) (heading ending : String) :
    r.named heading ending =
      (r.names heading ending).map fun name => (name, (r.get? heading (name ++ ending)).getD "") := by
  rw [names, List.map_map]
  calc r.named heading ending
    _ = (r.named heading ending).map id := (List.map_id _).symm
    _ = _ := List.map_congr_left fun ⟨name, value⟩ member => by
      simp [(mem_named_iff.1 member).2]

/-- The names stand in the order of their keys. -/
theorem map_names_sublist : ((r.names heading ending).map (· ++ ending)).Sublist
    (r.addedKeys heading).eraseDups := by
  rw [← map_fst_sectionOf, names, named]
  induction r.sectionOf heading with
  | nil => exact .slnil
  | cons pair pairs ih =>
    obtain ⟨key, value⟩ := pair
    cases h : stemOf? ending key with
    | none =>
      rw [List.filterMap_cons_none (by rw [h, Option.map_none])]
      exact ih.cons key
    | some name =>
      rw [List.filterMap_cons_some (by rw [h, Option.map_some])]
      obtain ⟨rfl, -⟩ := stemOf?_eq_some_iff.1 h
      exact ih.cons_cons _

theorem nodup_names : (r.names heading ending).Nodup := by
  have keys : ((r.names heading ending).map (· ++ ending)).Nodup :=
    (nodup_eraseDups (r.addedKeys heading)).sublist map_names_sublist
  exact keys.of_map _

end StageRecord

end GovernedExpr
