import GovernedExpr.Proofs.Governance.Views
import GovernedExpr.Proofs.Pipeline.Stages

/-!
# What has an influence on a run

A run depends on which stages have records and on the sections that the stages read, each key with
its latest value.  The names and versions of records, all other sections, entries that later ones
replace, and the way in which entries of different sections follow one another do not matter.

* `GovernanceStore.Agrees` says that two stores are the same in what matters;
* `GovernanceStore.settings_eq_of_agrees` says that the stages then have the same settings;
* `execute_of_agrees` says that all runs then come to the same, be it an output or an error;
* `GovernanceStore.annotated` is a store that agrees with a given one and looks quite different.
-/

namespace GovernedExpr

namespace GovernanceStore

variable {s t : GovernanceStore} {stage : Stage}

/-- Two stores have records of the same stages, and the sections that the stages read are the same
in both. -/
structure Agrees (s t : GovernanceStore) : Prop where
  stages : ∀ stage, (s.record? stage).map (·.stage) = (t.record? stage).map (·.stage)
  sections : ∀ stage : Stage, ∀ heading ∈ stage.headings,
    (s.record? stage).map (·.sectionOf heading) = (t.record? stage).map (·.sectionOf heading)

/-- What agreeing records settle alike is settled alike in agreeing stores. -/
theorem settings_eq_of_agrees {α : Type} {derive : StageRecord → Except GovernanceError α}
    (h : s.Agrees t) (alike : ∀ {r r'}, StageRecord.AgreesOn stage.headings r r' →
      derive r = derive r') : s.settings stage derive = t.settings stage derive := by
  have stages := h.stages stage
  have sections := h.sections stage
  unfold settings record
  cases hs : s.record? stage with
  | none =>
    cases ht : t.record? stage with
    | none => rfl
    | some r' => simp [hs, ht] at stages
  | some r =>
    cases ht : t.record? stage with
    | none => simp [hs, ht] at stages
    | some r' =>
      simp only [hs, ht, Option.map_some, Option.some.injEq] at stages sections
      have same : derive r = derive r' := alike ⟨stages, sections⟩
      exact congrArg (·.mapError ExecutionError.governance) same

end GovernanceStore

/-- **Only what the stages read in their sections has an influence on a run.**  Stores with records
of the same stages and with the same contents of these sections give the same output or the same
error, for every text and all options. -/
theorem execute_of_agrees {s t : GovernanceStore} (h : s.Agrees t) (options : RunOptions)
    (source : String) : s.execute options source = t.execute options source := by
  have tokenize : s.tokenize source = t.tokenize source := by
    rw [GovernanceStore.tokenize, GovernanceStore.tokenize,
      GovernanceStore.settings_eq_of_agrees h StageRecord.AgreesOn.lexingSettings_eq]
  have parse (tokens : TokenStream) : s.parse options tokens = t.parse options tokens := by
    rw [GovernanceStore.parse, GovernanceStore.parse,
      GovernanceStore.settings_eq_of_agrees h StageRecord.AgreesOn.parserSettings_eq]
  have measure (tree : Option Tree) : s.measure tree = t.measure tree := by
    rw [GovernanceStore.measure, GovernanceStore.measure,
      GovernanceStore.settings_eq_of_agrees h StageRecord.AgreesOn.passes_eq]
  have write (tree : Option Tree) : s.write options tree = t.write options tree := by
    rw [GovernanceStore.write, GovernanceStore.write,
      GovernanceStore.settings_eq_of_agrees h StageRecord.AgreesOn.outputSettings_eq]
  simp only [GovernanceStore.execute, tokenize, parse, measure, write]

/-! ### A store that looks different -/

namespace StageRecord

/-- The name of a section that no stage reads. -/
def notes : String := "NOTES"

/-- The record without its name, its alignment and its version.  In front of each entry stand a note
and an entry that the entry itself replaces. -/
def annotated (r : StageRecord) : StageRecord where
  stage := r.stage
  name := ""
  alignment := ""
  version := ""
  entries := r.entries.flatMap fun e => [⟨notes, e.key, e.value⟩, ⟨e.heading, e.key, ""⟩, e]

theorem setValue_setValue (key value value' : String) (pairs : List (String × String)) :
    setValue key value (setValue key value' pairs) = setValue key value pairs := by
  induction pairs with
  | nil => simp [setValue]
  | cons pair pairs ih =>
    obtain ⟨k, v⟩ := pair
    by_cases same : k = key <;> simp [setValue, same, ih]

theorem annotated_add (r : StageRecord) (heading key value : String) :
    (r.add heading key value).annotated =
      ((r.annotated.add notes key value).add heading key "").add heading key value := by
  simp [annotated, add, List.flatMap_append]

theorem sectionOf_annotated (r : StageRecord) {heading : String} (h : notes ≠ heading) :
    r.annotated.sectionOf heading = r.sectionOf heading := by
  induction r using inductionOn with
  | new => rfl
  | add r heading' key value ih =>
    rw [annotated_add]
    simp only [sectionOf_add, if_neg h, ih]
    by_cases same : heading' = heading
    · simp only [if_pos same, setValue_setValue]
    · simp only [if_neg same]

end StageRecord

namespace GovernanceStore

/-- The store of the annotated records. -/
def annotated (s : GovernanceStore) : GovernanceStore where
  record? stage := (s.record? stage).map StageRecord.annotated
  filed stage r h := by
    obtain ⟨r, hr, rfl⟩ := Option.map_eq_some_iff.1 h
    exact s.filed stage r hr

theorem notes_ne_of_mem_headings {stage : Stage} {heading : String}
    (member : heading ∈ stage.headings) : StageRecord.notes ≠ heading := by
  rintro rfl
  cases stage <;> simp [Stage.headings, StageRecord.notes, tokenPatterns, dfaConfiguration,
    precedenceTable, parserOptions, optimizationPasses, outputFormats] at member

theorem agrees_annotated (s : GovernanceStore) : s.Agrees s.annotated where
  stages stage := by
    rw [annotated, Option.map_map]
    rfl
  sections stage heading member := by
    rw [annotated, Option.map_map]
    refine Option.map_congr fun r _ => ?_
    exact (r.sectionOf_annotated (notes_ne_of_mem_headings member)).symm

end GovernanceStore

/-- A run under a governance with notes and with entries that are replaced. -/
theorem execute_of_agrees_annotated :
    let s := GovernanceStore.sumsFirst
    s.Agrees s.annotated ∧
      s.annotated.execute ⟨none, false⟩ "a * b + 2 - @ c" = .ok .sumsFirst := by
  intro s
  have agrees := s.agrees_annotated
  exact ⟨agrees, (execute_of_agrees agrees _ _).symm.trans GovernanceStore.execute_sumsFirst⟩

end GovernedExpr
