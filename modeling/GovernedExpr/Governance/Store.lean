import GovernedExpr.Governance.Builtin

/-!
# The store of governance

A store holds at most one record for each stage.

* `GovernanceStore.insert` files a record under its own stage;
* `GovernanceStore.load` files the built-in record of a stage that has none yet;
* `GovernanceStore.exchange` and `GovernanceStore.fetch` do the same and give an answer: the record
  that was replaced, and the record that the stage has now;
* `GovernanceStore.builtin` holds the built-in record of every stage;
* `GovernanceStore.record` finds the record of a stage, `GovernanceStore.records` lists them all.
-/

namespace GovernedExpr

/-- The records of the stages, each filed under its own stage. -/
structure GovernanceStore where
  record? : Stage → Option StageRecord
  filed : ∀ stage r, record? stage = some r → r.stage = stage

namespace GovernanceStore

/-- No stage has a record. -/
def empty : GovernanceStore := ⟨fun _ => none, nofun⟩

/-- File a record under its own stage, in place of the one before. -/
def insert (s : GovernanceStore) (r : StageRecord) : GovernanceStore where
  record? stage := if stage = r.stage then some r else s.record? stage
  filed stage r' h := by
    split at h
    next same => exact Option.some.inj h ▸ same.symm
    next => exact s.filed stage r' h

/-- File the built-in record of a stage, unless the stage has a record. -/
def loadStage (s : GovernanceStore) (stage : Stage) : GovernanceStore :=
  match s.record? stage with
  | some _ => s
  | none => s.insert (builtinRecord stage)

/-- File the built-in record of the stage with a number, unless the stage has a record. -/
def load (s : GovernanceStore) (id : Int) : Except GovernanceError GovernanceStore :=
  match Stage.ofId? id with
  | some stage => .ok (s.loadStage stage)
  | none => .error (.unknownStage id)

/-- File a record under its own stage, and give back the one before. -/
def exchange (s : GovernanceStore) (r : StageRecord) : Option StageRecord × GovernanceStore :=
  (s.record? r.stage, s.insert r)

/-- The built-in records of all stages. -/
def builtin : GovernanceStore :=
  Stage.all.foldl loadStage empty

/-- Whether a stage has a record. -/
def isLoaded (s : GovernanceStore) (stage : Stage) : Bool :=
  (s.record? stage).isSome

/-- The record of a stage that has to have one. -/
def record (s : GovernanceStore) (stage : Stage) : Except GovernanceError StageRecord :=
  match s.record? stage with
  | some r => .ok r
  | none => .error (.stageNotLoaded stage)

/-- File the built-in record of the stage with a number, unless the stage has a record, and give back
the record that the stage has then.  The number of no stage changes nothing. -/
def fetch (s : GovernanceStore) (id : Int) : Except GovernanceError StageRecord × GovernanceStore :=
  match Stage.ofId? id with
  | some stage => ((s.loadStage stage).record stage, s.loadStage stage)
  | none => (.error (.unknownStage id), s)

/-- The records, in the order of the stages. -/
def records (s : GovernanceStore) : List StageRecord :=
  Stage.all.filterMap s.record?

/-- The value of a key of a section of a stage. -/
def get? (s : GovernanceStore) (stage : Stage) (heading key : String) : Option String :=
  (s.record? stage).bind fun r => r.get? heading key

/-- The value of a key as an integer. -/
def getInt (s : GovernanceStore) (stage : Stage) (heading key : String) :
    Except GovernanceError (Option Int) := do
  (← s.record stage).getInt heading key

/-- The value of a key as a flag. -/
def getFlag (s : GovernanceStore) (stage : Stage) (heading key : String) :
    Except GovernanceError (Option Bool) := do
  (← s.record stage).getFlag heading key

@[simp] theorem record?_insert (s : GovernanceStore) (r : StageRecord) (stage : Stage) :
    (s.insert r).record? stage = if stage = r.stage then some r else s.record? stage := rfl

/-- Loading never replaces a record. -/
theorem record?_loadStage (s : GovernanceStore) (loaded stage : Stage) :
    (s.loadStage loaded).record? stage =
      if stage = loaded then (s.record? stage).or (some (builtinRecord stage))
      else s.record? stage := by
  unfold loadStage
  split
  next r h => by_cases hs : stage = loaded <;> simp [hs, h]
  next h =>
    by_cases hs : stage = loaded
    · simp [hs, h, stage_builtinRecord]
    · simp [hs, stage_builtinRecord]

end GovernanceStore

end GovernedExpr
