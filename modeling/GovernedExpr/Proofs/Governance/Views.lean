import Mathlib.Data.List.Induction
import GovernedExpr.Governance.Settings

/-!
# The views of a record

A record is read in three ways: by the latest value of a key, by the presence of a section, and by
the section as a whole, in which each key has its latest value.  The third view determines the other
two, and the settings of a stage depend on the sections that the stage reads, and on nothing else.

* `StageRecord.lookup_sectionOf` finds the latest value of a key in its section, and
  `StageRecord.hasSection_iff` says which sections are there;
* `Stage.headings` names the sections that the settings of a stage are derived from;
* `StageRecord.AgreesOn` says that two records of one stage have the same sections of given names;
* `StageRecord.AgreesOn.lexingSettings_eq` and its companions say that such records give the same
  settings, or fail to in the same way.
-/

namespace GovernedExpr

namespace StageRecord

variable {r r' : StageRecord} {heading : String}

/-! ### What an entry adds to each view -/

theorem lookup_cons_eq_ite {α : Type} (key : String) (value : α) (pairs : List (String × α))
    (k : String) :
    ((key, value) :: pairs).lookup k = if k = key then some value else pairs.lookup k := by
  by_cases hk : k = key
  · simp [hk]
  · simp [List.lookup_cons, beq_false_of_ne hk, hk]

theorem lookup_setValue (key value : String) (pairs : List (String × String)) (k : String) :
    (setValue key value pairs).lookup k = if k = key then some value else pairs.lookup k := by
  induction pairs with
  | nil => exact lookup_cons_eq_ite key value [] k
  | cons pair pairs ih =>
    obtain ⟨key', value'⟩ := pair
    by_cases same : key' = key
    · subst same
      rw [setValue, if_pos rfl, lookup_cons_eq_ite, lookup_cons_eq_ite]
      split <;> rfl
    · rw [setValue, if_neg same, lookup_cons_eq_ite, lookup_cons_eq_ite, ih]
      by_cases hk : k = key'
      · simp [hk, same]
      · simp [hk]

theorem setValue_ne_nil (key value : String) (pairs : List (String × String)) :
    setValue key value pairs ≠ [] := by
  cases pairs with
  | nil => exact List.cons_ne_nil _ _
  | cons pair pairs =>
    rw [setValue]
    split <;> exact List.cons_ne_nil _ _

theorem sectionOf_add (r : StageRecord) (h key value heading : String) :
    (r.add h key value).sectionOf heading =
      if h = heading then setValue key value (r.sectionOf heading) else r.sectionOf heading := by
  by_cases same : h = heading <;> simp [sectionOf, add, List.filter_append, same]

theorem get?_add (r : StageRecord) (h key value heading k : String) :
    (r.add h key value).get? heading k =
      if h = heading ∧ key = k then some value else r.get? heading k := by
  by_cases same : h = heading ∧ key = k
  · simp [get?, add, same]
  · have other : ¬ (h = heading && key = k) = true := by simpa using same
    simp [get?, add, same, other]

theorem hasSection_add (r : StageRecord) (h key value heading : String) :
    (r.add h key value).hasSection heading = (r.hasSection heading || h = heading) := by
  simp [hasSection, add]

/-- A property of records holds of all that have no entries, and is kept by every entry. -/
theorem inductionOn {motive : StageRecord → Prop} (r : StageRecord)
    (new : ∀ stage name alignment version, motive ⟨stage, name, alignment, version, []⟩)
    (add : ∀ r heading key value, motive r → motive (r.add heading key value)) : motive r := by
  obtain ⟨stage, name, alignment, version, entries⟩ := r
  induction entries using List.reverseRecOn with
  | nil => exact new _ _ _ _
  | append_singleton entries e ih => exact add ⟨_, _, _, _, entries⟩ e.heading e.key e.value ih

/-! ### A section determines the other views -/

/-- The value of a key is its value in the section. -/
theorem lookup_sectionOf (r : StageRecord) (heading key : String) :
    (r.sectionOf heading).lookup key = r.get? heading key := by
  induction r using inductionOn with
  | new => rfl
  | add r h k value ih =>
    rw [sectionOf_add, get?_add]
    by_cases same : h = heading
    · rw [if_pos same, lookup_setValue, ih]
      by_cases hk : k = key
      · rw [if_pos hk.symm, if_pos ⟨same, hk⟩]
      · rw [if_neg (Ne.symm hk), if_neg fun both => hk both.2]
    · rw [if_neg same, if_neg fun both => same both.1, ih]

/-- A section is there if it has keys. -/
theorem hasSection_iff (r : StageRecord) (heading : String) :
    r.hasSection heading = true ↔ r.sectionOf heading ≠ [] := by
  induction r using inductionOn with
  | new => exact iff_of_false Bool.false_ne_true fun h => h rfl
  | add r h k value ih =>
    rw [hasSection_add, sectionOf_add, Bool.or_eq_true, decide_eq_true_iff, ih]
    by_cases same : h = heading
    · rw [if_pos same]
      exact iff_of_true (.inr same) (setValue_ne_nil _ _ _)
    · rw [if_neg same, or_iff_left same]

end StageRecord

/-! ### Records that agree -/

/-- The sections that the settings of a stage are derived from. -/
def Stage.headings : Stage → List String
  | tokenizer => [tokenPatterns, dfaConfiguration]
  | parser => [precedenceTable, parserOptions]
  | coordinator => [optimizationPasses]
  | output => [outputFormats]

namespace StageRecord

/-- Two records of one stage have the same sections of the given names. -/
structure AgreesOn (headings : List String) (r r' : StageRecord) : Prop where
  stage_eq : r.stage = r'.stage
  sectionOf_eq : ∀ heading ∈ headings, r.sectionOf heading = r'.sectionOf heading

namespace AgreesOn

variable {headings : List String} {r r' : StageRecord} {heading : String}

theorem get?_eq (h : AgreesOn headings r r') (member : heading ∈ headings) (key : String) :
    r.get? heading key = r'.get? heading key := by
  rw [← lookup_sectionOf, h.sectionOf_eq heading member, lookup_sectionOf]

theorem require_eq (h : AgreesOn headings r r') (member : heading ∈ headings) (key : String) :
    r.require heading key = r'.require heading key := by
  rw [require, require, h.get?_eq member, h.stage_eq]

theorem getAs_eq {α : Type} (h : AgreesOn headings r r') (member : heading ∈ headings)
    (key : String) (read : String → Option α) (expected : Expectation) :
    r.getAs heading key read expected = r'.getAs heading key read expected := by
  rw [getAs, getAs, h.get?_eq member, h.stage_eq]

theorem getFlag_eq (h : AgreesOn headings r r') (member : heading ∈ headings) (key : String) :
    r.getFlag heading key = r'.getFlag heading key :=
  h.getAs_eq member key _ _

theorem requireSection_eq (h : AgreesOn headings r r') (member : heading ∈ headings) :
    r.requireSection heading = r'.requireSection heading := by
  have present : r.hasSection heading = r'.hasSection heading := by
    rw [Bool.eq_iff_iff, hasSection_iff, hasSection_iff, h.sectionOf_eq heading member]
  rw [requireSection, requireSection, present, h.stage_eq]

theorem expectStage_eq (h : AgreesOn headings r r') (expected : Stage) :
    r.expectStage expected = r'.expectStage expected := by
  rw [expectStage, expectStage, h.stage_eq]

/-! ### The same settings -/

theorem tokenRule?_eq (h : AgreesOn headings r r') (member : tokenPatterns ∈ headings)
    (key pattern : String) : r.tokenRule? key pattern = r'.tokenRule? key pattern := by
  unfold tokenRule?
  rw [h.stage_eq]
  cases stemOf? "_PATTERN" key with
  | none => rfl
  | some name =>
    dsimp only
    rw [h.require_eq member]

theorem setLevel_eq (h : AgreesOn headings r r') (table : PrecedenceTable) (key value : String) :
    r.setLevel table key value = r'.setLevel table key value := by
  unfold setLevel
  rw [h.stage_eq]

theorem lexingSettings_eq (h : AgreesOn Stage.tokenizer.headings r r') :
    r.lexingSettings = r'.lexingSettings := by
  have patterns : tokenPatterns ∈ Stage.tokenizer.headings := List.mem_cons_self
  have flags : dfaConfiguration ∈ Stage.tokenizer.headings :=
    List.mem_cons_of_mem _ List.mem_cons_self
  have rules : r.tokenRules = r'.tokenRules := by
    simp only [tokenRules, h.sectionOf_eq _ patterns, h.tokenRule?_eq patterns]
  simp only [lexingSettings, h.expectStage_eq, h.requireSection_eq patterns, rules,
    h.getFlag_eq flags]

theorem parserSettings_eq (h : AgreesOn Stage.parser.headings r r') :
    r.parserSettings = r'.parserSettings := by
  have table : precedenceTable ∈ Stage.parser.headings := List.mem_cons_self
  have options : parserOptions ∈ Stage.parser.headings :=
    List.mem_cons_of_mem _ List.mem_cons_self
  have levels : r.levels = r'.levels := by
    simp only [StageRecord.levels, h.sectionOf_eq _ table, h.setLevel_eq]
  simp only [parserSettings, h.expectStage_eq, h.requireSection_eq table, levels,
    h.getAs_eq options]

theorem passes_eq (h : AgreesOn Stage.coordinator.headings r r') : r.passes = r'.passes := by
  have member : optimizationPasses ∈ Stage.coordinator.headings := List.mem_cons_self
  simp only [passes, h.expectStage_eq, h.sectionOf_eq _ member, h.getFlag_eq member]

theorem outputSettings_eq (h : AgreesOn Stage.output.headings r r') :
    r.outputSettings = r'.outputSettings := by
  have member : outputFormats ∈ Stage.output.headings := List.mem_cons_self
  simp only [outputSettings, h.expectStage_eq, h.requireSection_eq member, h.require_eq member,
    h.getFlag_eq member, h.get?_eq member]

end AgreesOn

end StageRecord

end GovernedExpr
