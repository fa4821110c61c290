import GovernedExpr.Governance.Record
import GovernedExpr.Yaml.Value

/-!
# Documents of records

A document describes the record of a stage.  It is a mapping that states the number of the stage,
a name, an alignment, a version if it is not the initial one, and sections; other fields are
ignored.

* `StageDocument` is what a document states, `StageDocument.ofText?` reads it;
* `StageDocument.entries` lists the entries of the sections, or says what is wrong with them;
* `StageDocument.stage` is the stage with the number that a document states;
* `StageDocument.record` is the record that a document describes;
* `readRecord` reads the record that a text describes.
-/

namespace GovernedExpr

open Yaml

/-- What a document states. -/
structure StageDocument where
  id : Int
  name : String
  alignment : String
  version : String
  sections : List (Value × Value)
  deriving Inhabited

namespace StageDocument

/-! ### Fields -/

/-- The value of a field, which may be stated once. -/
def field? (fields : List (String × Node)) (name : String) : Option (Option Node) :=
  match fields.filter fun (other, _) => other = name with
  | [] => some none
  | [(_, node)] => some (some node)
  | _ => none

/-- Read a field that has to be stated. -/
def required {α : Type} (fields : List (String × Node)) (name : String)
    (read : Node → Following α) : Following α := do
  match ← field? fields name with
  | some node => read node
  | none => failure

/-- Read a field that has a value if it is not stated. -/
def optional {α : Type} (fields : List (String × Node)) (name : String) (value : α)
    (read : Node → Following α) : Following α := do
  match ← field? fields name with
  | some node => read node
  | none => return value

/-- Read the fields of the outermost mapping. -/
def ofPairs (source : Source) (pairs : List (Node × Node)) : Following StageDocument := do
  let fields ← pairs.mapM fun (key, node) => return (← source.text? key, node)
  let id ← required fields "stage_id" source.integer?
  let name ← required fields "stage_name" source.text?
  let alignment ← required fields "sp_alignment" source.text?
  let version ← optional fields "governance_version" StageRecord.initialVersion source.text?
  let sections ← optional fields "sections" [] source.pairs?
  match Text.Bounds.int64.check id with
  | some id => return ⟨id, name, alignment, version, sections⟩
  | none => failure

/-- What a text states, if it is a document. -/
def ofText? (text : String) : Option StageDocument := do
  let root ← Node.read? text
  match root with
  | .mapping _ pairs => (ofPairs (Source.ofNode root) pairs).run' (Source.aliasLimit root)
  | _ => none

/-! ### Sections -/

/-- The entry for a key and a value of a section. -/
def entry (heading : String) : Value × Value → Except DocumentError Entry
  | (key, value) =>
    match key.scalarText? with
    | none => .error (.key heading)
    | some name =>
      match value.scalarText? with
      | none => .error (.value heading name)
      | some text => .ok ⟨heading, name, text⟩

/-- The entries of a section: a mapping, or nothing for no entries. -/
def sectionEntries : Value × Value → Except DocumentError (List Entry)
  | (name, body) =>
    match name.scalarText? with
    | none => .error .sectionName
    | some heading =>
      match body with
      | .mapping pairs => pairs.mapM (entry heading)
      | .null => .ok []
      | _ => .error (.sectionBody heading)

/-- The entries of all sections, in the order in which they stand. -/
def entries (d : StageDocument) : Except DocumentError (List Entry) := do
  return (← d.sections.mapM sectionEntries).flatten

/-! ### Records -/

/-- The byte with a value. -/
def byte? (n : Int) : Option UInt8 :=
  if 0 ≤ n ∧ n ≤ 255 then some (UInt8.ofNat n.toNat) else none

/-- The stage with the number that a document states.  Stages are numbered by bytes. -/
def stage (d : StageDocument) : Except GovernanceError Stage :=
  match byte? d.id with
  | none => .error (.unknownStage d.id)
  | some b =>
    match Stage.ofId? b.toNat with
    | none => .error (.unknownStage b.toNat)
    | some stage => .ok stage

/-- The record that a document describes. -/
def record (d : StageDocument) : Except GovernanceError StageRecord :=
  match d.stage with
  | .error e => .error e
  | .ok stage =>
    match d.entries with
    | .error cause => .error (.document cause)
    | .ok entries => .ok ⟨stage, d.name, d.alignment, d.version, entries⟩

/-- A number that is no byte is reported like a byte that numbers no stage. -/
theorem stage_eq (d : StageDocument) :
    d.stage = match Stage.ofId? d.id with
      | none => .error (.unknownStage d.id)
      | some stage => .ok stage := by
  unfold stage byte?
  by_cases bounded : 0 ≤ d.id ∧ d.id ≤ 255
  · have value : (((UInt8.ofNat d.id.toNat).toNat : Nat) : Int) = d.id := by
      rw [UInt8.toNat_ofNat']
      omega
    rw [if_pos bounded]
    dsimp only
    rw [value]
  · rw [if_neg bounded, Stage.ofId?_eq_none (by omega)]

end StageDocument

/-- Read the record that a text describes. -/
def readRecord (text : String) : Except GovernanceError StageRecord :=
  match StageDocument.ofText? text with
  | none => .error (.document .malformed)
  | some d => d.record

end GovernedExpr
