import GovernedExpr.Proofs.Governance.PatternKeys

/-!
# The passes that a record states

The passes of a record are the keys of their section.  They are listed in the order in which the keys were
first added, but whether a pass is enabled is looked up anew for each of them, and it is the latest value that
is found.

* `StageRecord.passKeys` lists the keys, and `StageRecord.enables` is what the latest value of a key says;
* `StageRecord.passes_eq_ok_iff` and `StageRecord.passes_eq_error_iff` say which passes a record gives, and
  what is wrong if it gives none;
* `passes_exact` says so, and that the report on a tree has these passes.
-/

namespace GovernedExpr

namespace StageRecord

variable {r : StageRecord} {ps : List Pass} {e : GovernanceError} {key : String}

/-- The keys of the passes, each once, in the order in which they were first added. -/
def passKeys (r : StageRecord) : List String :=
  (r.addedKeys optimizationPasses).eraseDups

/-- Whether the latest value of a key enables its pass. -/
def enables (r : StageRecord) (key : String) : Bool :=
  (r.get? optimizationPasses key).bind flagOf? = some true

theorem mem_passKeys_iff : key ∈ r.passKeys ↔ ∃ text, r.get? optimizationPasses key = some text := by
  rw [passKeys, ← map_fst_sectionOf, List.mem_map]
  simp only [Prod.exists, mem_sectionOf_iff, exists_and_right, exists_eq_right]

/-- The loop over the section is one over its keys. -/
theorem passes_eq (stage : r.stage = .coordinator) : r.passes = r.passKeys.mapM fun key => do
    let enabled ← r.getFlag optimizationPasses key
    return ⟨key, enabled.getD false⟩ := by
  unfold passes expectStage
  rw [if_pos stage, passKeys, ← map_fst_sectionOf, List.mapM_map]
  rfl

/-- A flag that is there has a value. -/
theorem getFlag_of_mem_passKeys (member : key ∈ r.passKeys) (valid : r.FlagIsValid optimizationPasses key) :
    r.getFlag optimizationPasses key = .ok (some (r.enables key)) := by
  obtain ⟨text, found⟩ := mem_passKeys_iff.1 member
  obtain ⟨b, read⟩ := valid text found
  rw [getFlag_eq_ok_iff, enables, found]
  refine ⟨valid, ?_⟩
  rw [Option.bind_some, read]
  cases b <;> rfl

/-- A record gives passes if the latest value of each key is a truth value. -/
theorem passes_eq_ok_iff (stage : r.stage = .coordinator) :
    r.passes = .ok ps ↔ (∀ key ∈ r.passKeys, r.FlagIsValid optimizationPasses key) ∧
      (r.passKeys.map fun key => ⟨key, r.enables key⟩) = ps := by
  rw [passes_eq stage]
  refine mapM_eq_ok_iff_map fun key pass => ?_
  simp only [bind_eq_ok_iff, getFlag_eq_ok_iff, pure, Except.pure, Except.ok.injEq]
  have flag : ((r.get? optimizationPasses key).bind flagOf?).getD false = r.enables key := by
    unfold enables
    rcases (r.get? optimizationPasses key).bind flagOf? with _ | _ | _ <;> rfl
  constructor
  · rintro ⟨_, ⟨valid, rfl⟩, rfl⟩
    exact ⟨valid, by rw [flag]⟩
  · rintro ⟨valid, rfl⟩
    exact ⟨_, ⟨valid, rfl⟩, by rw [flag]⟩

/-- A record gives no passes if the latest value of a key is no truth value; the first such key decides. -/
theorem passes_eq_error_iff (stage : r.stage = .coordinator) :
    r.passes = .error e ↔ FirstFault (r.FlagFault optimizationPasses) r.passKeys e := by
  rw [passes_eq stage, mapM_eq_error_iff]
  refine firstFault_congr fun key _ e => ?_
  simp only [bind_eq_error_iff, getFlag_eq_error_iff, pure, Except.pure, reduceCtorEq, and_false,
    exists_false, or_false]

theorem forall_flagIsValid_iff : (∀ key ∈ r.passKeys, r.FlagIsValid optimizationPasses key) ↔
    ∀ key text, r.IsLatest optimizationPasses key text → ∃ b, flagOf? text = some b := by
  simp only [← get?_eq_some_iff_isLatest]
  constructor
  · intro valid key text found
    exact valid key (mem_passKeys_iff.2 ⟨text, found⟩) text found
  · intro valid key _ text found
    exact valid key text found

end StageRecord

/-- The names of the enabled passes of a report, where passes are enabled by their names. -/
theorem enabled_coordinate (keys : List String) (enables : String → Bool) (root : Option Tree) :
    (coordinate (keys.map fun key => ⟨key, enables key⟩) root).enabled = keys.filter enables := by
  cases root <;>
  · rw [Report.enabled, coordinate, List.filter_map, List.map_map]
    exact List.map_id _

/-- **Which passes a record gives, and which passes a report has.**  A record gives passes if and only if the
latest value of each key of their section is a truth value; otherwise the first key with another value decides.
The passes are the keys of the section, each once and in the order in which they were first added, and each is
enabled or not by its latest value, which is always found.  The report on a tree, and the one without a tree,
has the same passes, and names those that are enabled in this order. -/
theorem passes_exact {r : StageRecord} (stage : r.stage = .coordinator) :
    ((∃ ps, r.passes = .ok ps) ↔
      ∀ key text, r.IsLatest optimizationPasses key text → ∃ b, flagOf? text = some b) ∧
    (∀ e, r.passes = .error e ↔
      FirstFault (r.FlagFault optimizationPasses) (r.addedKeys optimizationPasses).eraseDups e) ∧
    ∀ ps, r.passes = .ok ps →
      ps.map Pass.name = (r.addedKeys optimizationPasses).eraseDups ∧
      (ps.map Pass.name).Nodup ∧
      (∀ p ∈ ps, r.getFlag optimizationPasses p.name = .ok (some p.enabled) ∧
        ∃ text, r.IsLatest optimizationPasses p.name text ∧ flagOf? text = some p.enabled) ∧
      ∀ root : Option Tree, (coordinate ps root).passes = ps ∧
        (coordinate ps root).enabled =
          (r.addedKeys optimizationPasses).eraseDups.filter fun key =>
            (r.get? optimizationPasses key).bind flagOf? = some true := by
  refine ⟨?_, fun e => StageRecord.passes_eq_error_iff stage, fun ps h => ?_⟩
  · rw [← StageRecord.forall_flagIsValid_iff]
    simp only [StageRecord.passes_eq_ok_iff stage, exists_and_left, exists_eq', and_true]
  · obtain ⟨valid, rfl⟩ := (StageRecord.passes_eq_ok_iff stage).1 h
    have names : (r.passKeys.map fun key => (⟨key, r.enables key⟩ : Pass)).map Pass.name = r.passKeys := by
      rw [List.map_map]
      exact List.map_id _
    refine ⟨names, ?_, fun p member => ?_, fun root => ⟨?_, ?_⟩⟩
    · rw [names]
      exact StageRecord.nodup_eraseDups _
    · obtain ⟨key, hkey, rfl⟩ := List.mem_map.1 member
      obtain ⟨text, found⟩ := StageRecord.mem_passKeys_iff.1 hkey
      have flag := StageRecord.getFlag_of_mem_passKeys hkey (valid key hkey)
      have read := (StageRecord.getFlag_eq_ok_iff.1 flag).2
      rw [found, Option.bind_some] at read
      exact ⟨flag, text, (r.get?_eq_some_iff_isLatest _ _ _).1 found, read⟩
    · cases root <;> rfl
    · exact enabled_coordinate r.passKeys r.enables root

/-- Passes that are written over, between others and in another section. -/
theorem passes_exact_interleaved :
    let r : StageRecord :=
      ⟨.coordinator, "COORDINATOR", "SEMANTICS", "1.0.0",
        [⟨optimizationPasses, "fold", "perhaps"⟩, ⟨optimizationPasses, "prune", "on"⟩,
          ⟨optimizationPasses, "share", " TRUE "⟩, ⟨tokenPatterns, "prune", "yes"⟩,
          ⟨optimizationPasses, "prune", "off"⟩, ⟨optimizationPasses, "fold", "1"⟩]⟩
    r.stage = .coordinator ∧ r.passes = .ok [⟨"fold", true⟩, ⟨"prune", false⟩, ⟨"share", true⟩] ∧
      (coordinate [⟨"fold", true⟩, ⟨"prune", false⟩, ⟨"share", true⟩] none).enabled =
        (r.addedKeys optimizationPasses).eraseDups.filter fun key =>
          (r.get? optimizationPasses key).bind flagOf? = some true := by
  intro r
  have given : r.passes = .ok [⟨"fold", true⟩, ⟨"prune", false⟩, ⟨"share", true⟩] :=
    toOption_eq_some_iff.1 (by decide +kernel)
  exact ⟨rfl, given, (((passes_exact rfl).2.2 _ given).2.2.2 none).2⟩

end GovernedExpr
