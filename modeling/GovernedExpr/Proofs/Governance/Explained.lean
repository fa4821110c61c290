import GovernedExpr.Governance.Store
import GovernedExpr.Proofs.Governance.Sections

/-!
# What errors of governance say

The settings of a stage are derived from its record step by step, and the derivation ends at the first
step that fails.  Each step looks at the record in a way of its own: by a section, by the value of a
key, or by the keys of a section with their values.  What its error says is so in the store all the
same.

* `GovernanceError.HoldsIn` is what an error says of a store;
* `GovernanceStore.Explains` says that a computation only fails with errors that hold; it is kept by
  sequences and loops;
* `GovernanceStore.explains_lexingSettings` and its companions say so of the settings of the four
  stages, derived from a record that the store holds.
-/

namespace GovernedExpr

/-- What an error of governance says is so in a store.  In a store there is nothing that the errors
of numbers, of documents and files and of misplaced records could be about. -/
def GovernanceError.HoldsIn (s : GovernanceStore) : GovernanceError → Prop
  | stageNotLoaded stage => s.record? stage = none
  | missingSection stage heading =>
    ∃ r, s.record? stage = some r ∧ ∀ e ∈ r.entries, e.heading ≠ heading
  | missingKey stage heading key => s.get? stage heading key = none
  | invalidValue stage heading key value _ => s.get? stage heading key = some value
  | unknownTokenKind name => TokenKind.ofName? name = none ∧
    ∃ key pattern, s.get? .tokenizer tokenPatterns key = some pattern ∧
      stemOf? "_PATTERN" key = some name
  | unknownOperator name => StageRecord.operatorSymbol? name = none ∧
    ∃ key level, s.get? .parser precedenceTable key = some level ∧
      stemOf? "_PRECEDENCE" key = some name
  | unknownStage _ | stageMismatch _ _ | document _ | unreadable _ _ => False

namespace GovernanceStore

/-- A computation only fails with errors that hold in a store. -/
def Explains (s : GovernanceStore) {α : Type} (x : Except GovernanceError α) : Prop :=
  ∀ e, x = .error e → e.HoldsIn s

/-! ### Sequences and loops -/

section Sequences

variable {s : GovernanceStore} {α β : Type}

theorem explains_ok (a : α) : s.Explains (.ok a) :=
  nofun

theorem explains_error {e : GovernanceError} (h : e.HoldsIn s) :
    s.Explains (.error e : Except GovernanceError α) := by
  rintro _ ⟨⟩
  exact h

theorem Explains.bind {x : Except GovernanceError α} {f : α → Except GovernanceError β}
    (hx : s.Explains x) (hf : ∀ a, x = .ok a → s.Explains (f a)) : s.Explains (x >>= f) := by
  cases x with
  | error e => exact explains_error (hx e rfl)
  | ok a => exact hf a rfl

theorem explains_mapM {f : α → Except GovernanceError β} {l : List α}
    (h : ∀ a ∈ l, s.Explains (f a)) : s.Explains (l.mapM f) := by
  induction l with
  | nil => exact explains_ok []
  | cons a l ih =>
    rw [List.mapM_cons]
    -- the values found so far do not matter for which error comes next
    have rest := ih fun a' ha' => h a' (List.mem_cons_of_mem a ha')
    exact (h a List.mem_cons_self).bind fun _ _ => rest.bind fun _ _ => explains_ok _

theorem explains_foldlM {f : β → α → Except GovernanceError β} {l : List α}
    (h : ∀ b, ∀ a ∈ l, s.Explains (f b a)) (b : β) : s.Explains (l.foldlM f b) := by
  induction l generalizing b with
  | nil => exact explains_ok b
  | cons a l ih =>
    rw [List.foldlM_cons]
    have rest := ih fun b' a' ha' => h b' a' (List.mem_cons_of_mem a ha')
    exact (h b a List.mem_cons_self).bind fun b' _ => rest b'

end Sequences

/-! ### Steps of a derivation -/

section Steps

variable {s : GovernanceStore} {r : StageRecord} {heading key value : String}

theorem get?_of_held (held : s.record? r.stage = some r) (heading key : String) :
    s.get? r.stage heading key = r.get? heading key := by
  rw [get?, held]
  rfl

theorem explains_expectStage {stage : Stage} (h : r.stage = stage) :
    s.Explains (r.expectStage stage) := by
  rw [StageRecord.expectStage, if_pos h]
  exact explains_ok ()

theorem explains_requireSection (held : s.record? r.stage = some r) (heading : String) :
    s.Explains (r.requireSection heading) := by
  unfold StageRecord.requireSection
  split
  next => exact explains_ok ()
  next missing =>
    refine explains_error ⟨r, held, fun e he same => missing ?_⟩
    exact List.any_eq_true.2 ⟨e, he, decide_eq_true same⟩

theorem explains_require (held : s.record? r.stage = some r) (heading key : String) :
    s.Explains (r.require heading key) := by
  unfold StageRecord.require
  split
  next value found => exact explains_ok value
  next missing => exact explains_error ((get?_of_held held heading key).trans missing)

theorem explains_getAs {α : Type} (held : s.record? r.stage = some r) (heading key : String)
    (read : String → Option α) (expected : Expectation) :
    s.Explains (r.getAs heading key read expected) := by
  unfold StageRecord.getAs
  split
  next => exact explains_ok none
  next value found =>
    split
    next a _ => exact explains_ok (some a)
    next => exact explains_error ((get?_of_held held heading key).trans found)

theorem explains_getFlag (held : s.record? r.stage = some r) (heading key : String) :
    s.Explains (r.getFlag heading key) :=
  explains_getAs held heading key _ _

theorem require_eq_ok_iff : r.require heading key = .ok value ↔ r.get? heading key = some value := by
  unfold StageRecord.require
  cases r.get? heading key <;> simp

theorem explains_tokenRule? (held : s.record? r.stage = some r) (stage : r.stage = .tokenizer)
    (present : r.get? tokenPatterns key = some value) : s.Explains (r.tokenRule? key value) := by
  unfold StageRecord.tokenRule?
  split
  next => exact explains_ok none
  next name stem =>
    split
    next unknown =>
      refine explains_error ⟨unknown, key, value, ?_, stem⟩
      rw [← stage, get?_of_held held, present]
    next kind _ =>
      refine (explains_require held _ _).bind fun text required => ?_
      split
      next priority _ => exact explains_ok _
      next =>
        exact explains_error ((get?_of_held held _ _).trans (require_eq_ok_iff.1 required))

theorem explains_setLevel (held : s.record? r.stage = some r) (stage : r.stage = .parser)
    (present : r.get? precedenceTable key = some value) (table : PrecedenceTable) :
    s.Explains (r.setLevel table key value) := by
  have valued : s.get? r.stage precedenceTable key = some value :=
    (get?_of_held held precedenceTable key).trans present
  unfold StageRecord.setLevel
  split
  next => exact explains_ok table
  next name stem =>
    split
    next unknown => exact explains_error ⟨unknown, key, value, stage ▸ valued, stem⟩
    next symbol _ =>
      split
      next level _ => exact explains_ok _
      next => exact explains_error valued

end Steps

/-! ### The settings of the stages -/

section Settings

variable {s : GovernanceStore} {r : StageRecord}

theorem explains_lexingSettings (held : s.record? r.stage = some r)
    (stage : r.stage = .tokenizer) : s.Explains r.lexingSettings := by
  have rules : s.Explains r.tokenRules := by
    -- a value that the loop finds in the section is the one that a look-up finds
    refine (explains_mapM fun pair member => ?_).bind fun _ _ => explains_ok _
    exact explains_tokenRule? held stage ((r.mem_sectionOf_iff _ _ _).1 member)
  exact (explains_expectStage stage).bind fun _ _ =>
    (explains_requireSection held tokenPatterns).bind fun _ _ =>
    rules.bind fun _ _ =>
    (explains_getFlag held dfaConfiguration "reject_empty_input").bind fun _ _ =>
    (explains_getFlag held dfaConfiguration "error_recovery").bind fun _ _ => explains_ok _

theorem explains_parserSettings (held : s.record? r.stage = some r) (stage : r.stage = .parser) :
    s.Explains r.parserSettings := by
  have levels : s.Explains r.levels := by
    refine explains_foldlM (fun table pair member => ?_) _
    exact explains_setLevel held stage ((r.mem_sectionOf_iff _ _ _).1 member) table
  exact (explains_expectStage stage).bind fun _ _ =>
    (explains_requireSection held precedenceTable).bind fun _ _ =>
    levels.bind fun _ _ =>
    (explains_getAs held parserOptions "missing_operand" _ _).bind fun _ _ => explains_ok _

theorem explains_passes (held : s.record? r.stage = some r) (stage : r.stage = .coordinator) :
    s.Explains r.passes := by
  unfold StageRecord.passes
  refine (explains_expectStage stage).bind fun _ _ => explains_mapM fun pair _ => ?_
  exact (explains_getFlag held optimizationPasses pair.1).bind fun _ _ => explains_ok _

theorem explains_outputSettings (held : s.record? r.stage = some r) (stage : r.stage = .output) :
    s.Explains r.outputSettings :=
  (explains_expectStage stage).bind fun _ _ =>
    (explains_requireSection held outputFormats).bind fun _ _ =>
    (explains_require held outputFormats "primary_format").bind fun _ _ =>
    (explains_getFlag held outputFormats "json_export").bind fun _ _ =>
    (explains_getFlag held outputFormats "debug_output").bind fun _ _ => explains_ok _

end Settings

end GovernanceStore

end GovernedExpr
