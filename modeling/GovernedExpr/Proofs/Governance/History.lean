import Mathlib.Data.List.Induction
import GovernedExpr.Governance.Store

/-!
# The history of a store

A store is changed in two ways.  Loading is the weak one: it gives a stage its built-in record, but
never replaces a record.  Inserting is the strong one: it files a record under the stage of the
record, whatever was there.

* `StoreChange` is a change, `GovernanceStore.change` makes it, and `GovernanceStore.ofHistory` makes
  one after the other, from the empty store;
* `GovernanceStore.record?_change` says what one change does to a record;
* `GovernanceStore.record?_ofHistory` says what a whole history comes to: the last record inserted
  counts, and loading counts only where no record was inserted;
* `GovernanceStore.mem_records_iff` and `GovernanceStore.pairwise_records` say what the records of a
  store are listed as;
* `store_history` puts these together with the answers of changes.
-/

namespace GovernedExpr

/-! ### Numbers of stages -/

namespace Stage

theorem id_inj {stage stage' : Stage} : (stage.id : Int) = stage'.id ↔ stage = stage' := by
  rw [← ofId?_eq_some_iff, ofId?_id, Option.some.injEq]

theorem pairwise_all : all.Pairwise fun stage stage' => stage.id < stage'.id := by
  decide

end Stage

/-! ### Changes -/

/-- A change of a store. -/
inductive StoreChange
  /-- Load the built-in record of the stage with a number. -/
  | load (id : Int)
  /-- Insert a record. -/
  | insert (r : StageRecord)
  deriving DecidableEq

/-- The record that a change inserts for a stage. -/
def StoreChange.inserted? (stage : Stage) : StoreChange → Option StageRecord
  | load _ => none
  | insert r => if r.stage = stage then some r else none

/-- The last record that was inserted for a stage. -/
def lastInserted? (history : List StoreChange) (stage : Stage) : Option StageRecord :=
  history.reverse.findSome? (StoreChange.inserted? stage)

theorem lastInserted?_concat (history : List StoreChange) (c : StoreChange) (stage : Stage) :
    lastInserted? (history ++ [c]) stage =
      (c.inserted? stage).or (lastInserted? history stage) := by
  rw [lastInserted?, List.reverse_append, List.findSome?_append]
  cases h : c.inserted? stage <;> simp [h, lastInserted?]

namespace GovernanceStore

/-- Make a change. -/
def change (s : GovernanceStore) : StoreChange → GovernanceStore
  | .load id => (s.fetch id).2
  | .insert r => (s.exchange r).2

/-- Make one change after the other, from the store without records. -/
def ofHistory (history : List StoreChange) : GovernanceStore :=
  history.foldl change empty

variable {s : GovernanceStore} {stage : Stage} {r : StageRecord}

theorem ext_record? {t : GovernanceStore} (h : ∀ stage, s.record? stage = t.record? stage) :
    s = t := by
  cases s
  cases t
  exact (GovernanceStore.mk.injEq _ _ _ _).mpr (funext h)

/-! ### One change -/

theorem fetch_id (s : GovernanceStore) (stage : Stage) :
    s.fetch stage.id = (.ok ((s.record? stage).getD (builtinRecord stage)), s.loadStage stage) := by
  rw [fetch, Stage.ofId?_id]
  dsimp only
  rw [record, record?_loadStage, if_pos rfl]
  cases s.record? stage <;> rfl

theorem fetch_of_ofId?_eq_none {id : Int} (h : Stage.ofId? id = none) (s : GovernanceStore) :
    s.fetch id = (.error (.unknownStage id), s) := by
  rw [fetch, h]

theorem record?_change_load (s : GovernanceStore) (id : Int) (stage : Stage) :
    (s.change (.load id)).record? stage =
      if id = stage.id then (s.record? stage).or (some (builtinRecord stage))
      else s.record? stage := by
  rw [change]
  cases hid : Stage.ofId? id with
  | none =>
    have other : id ≠ stage.id := fun same => by simp [same] at hid
    rw [fetch_of_ofId?_eq_none hid, if_neg other]
  | some loaded =>
    obtain rfl := Stage.ofId?_eq_some_iff.1 hid
    rw [fetch_id, record?_loadStage]
    simp only [Stage.id_inj, eq_comm]

/-- What one change does to the record of a stage: a record that is inserted for the stage replaces
it, and the built-in one takes its place if there was none. -/
theorem record?_change (s : GovernanceStore) (c : StoreChange) (stage : Stage) :
    (s.change c).record? stage =
      ((c.inserted? stage).or (s.record? stage)).or
        (if c = .load stage.id then some (builtinRecord stage) else none) := by
  cases c with
  | load id =>
    rw [record?_change_load]
    by_cases same : id = stage.id
    · simp [StoreChange.inserted?, same]
    · simp [StoreChange.inserted?, same]
  | insert r =>
    rw [change, exchange, record?_insert]
    by_cases same : r.stage = stage
    · simp [StoreChange.inserted?, same]
    · simp [StoreChange.inserted?, same, Ne.symm same]

/-! ### A whole history -/

/-- **What a history comes to.**  The last record that was inserted for a stage counts.  If there is
none, the built-in record counts, provided that it was loaded. -/
theorem record?_ofHistory (history : List StoreChange) (stage : Stage) :
    (ofHistory history).record? stage =
      (lastInserted? history stage).or
        (if .load stage.id ∈ history then some (builtinRecord stage) else none) := by
  -- by induction from the end of the history, where the last change stands
  induction history using List.reverseRecOn with
  | nil => rfl
  | append_singleton history c ih =>
    have last : ofHistory (history ++ [c]) = (ofHistory history).change c := by
      rw [ofHistory, List.foldl_append]
      rfl
    -- the two sides try the same three records in the same order, and differ in where a load of the
    -- stage is looked for
    rw [last, record?_change, ih, lastInserted?_concat, Option.or_assoc, Option.or_assoc,
      Option.or_assoc]
    by_cases loaded : .load stage.id ∈ history
    · simp [loaded]
    · simp [loaded, eq_comm]

/-! ### The listing -/

theorem mem_records_iff : r ∈ s.records ↔ s.record? r.stage = some r := by
  rw [records, List.mem_filterMap]
  constructor
  · rintro ⟨stage, -, hr⟩
    rwa [s.filed stage r hr]
  · intro hr
    exact ⟨r.stage, Stage.mem_all _, hr⟩

theorem pairwise_records (s : GovernanceStore) :
    s.records.Pairwise fun r r' => r.stage.id < r'.stage.id := by
  rw [records, List.pairwise_filterMap]
  refine Stage.pairwise_all.imp fun hlt r hr r' hr' => ?_
  rwa [s.filed _ r hr, s.filed _ r' hr']

end GovernanceStore

/-- **The law of histories.**  After any changes of an empty store, a stage has the record that was
last inserted for it, else its built-in record if that was loaded, else none; so neither the number
nor the order of loads matters.  Each record stands under its own stage.  Loading the number of no
stage is refused and changes nothing; loading a stage gives the record that it has, or else the
built-in one.  Inserting gives back exactly the record before and leaves the other stages alone.  The
records are listed in the order of the stages, each once. -/
theorem store_history (history : List StoreChange) :
    let s := GovernanceStore.ofHistory history
    (∀ stage, s.record? stage =
      (lastInserted? history stage).or
        (if .load stage.id ∈ history then some (builtinRecord stage) else none)) ∧
    (∀ history', (∀ stage, lastInserted? history' stage = lastInserted? history stage) →
      (∀ stage : Stage, .load stage.id ∈ history' ↔ .load stage.id ∈ history) →
        GovernanceStore.ofHistory history' = s) ∧
    (∀ stage r, s.record? stage = some r → r.stage = stage) ∧
    (∀ id, id < 0 ∨ 3 < id → s.fetch id = (.error (.unknownStage id), s)) ∧
    (∀ stage : Stage, s.fetch stage.id =
      (.ok ((s.record? stage).getD (builtinRecord stage)), s.change (.load stage.id))) ∧
    (∀ r, (s.exchange r).1 = s.record? r.stage ∧ (s.exchange r).2.record? r.stage = some r ∧
      ∀ stage, stage ≠ r.stage → (s.exchange r).2.record? stage = s.record? stage) ∧
    s.records.Pairwise (fun r r' => r.stage.id < r'.stage.id) ∧
    ∀ r, r ∈ s.records ↔ s.record? r.stage = some r := by
  intro s
  refine ⟨GovernanceStore.record?_ofHistory history, fun history' inserted loaded => ?_, s.filed,
    fun id hid => ?_, fun stage => ?_, fun r => ⟨rfl, ?_, fun stage other => ?_⟩,
    s.pairwise_records, fun r => GovernanceStore.mem_records_iff⟩
  · refine GovernanceStore.ext_record? fun stage => ?_
    rw [GovernanceStore.record?_ofHistory, inserted, GovernanceStore.record?_ofHistory]
    simp only [loaded]
  · exact GovernanceStore.fetch_of_ofId?_eq_none (Stage.ofId?_eq_none hid) s
  · rw [GovernanceStore.change, GovernanceStore.fetch_id]
  · rw [GovernanceStore.exchange, GovernanceStore.record?_insert, if_pos rfl]
  · rw [GovernanceStore.exchange, GovernanceStore.record?_insert, if_neg other]

end GovernedExpr
