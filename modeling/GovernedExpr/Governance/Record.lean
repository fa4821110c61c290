import GovernedExpr.Governance.Error
import GovernedExpr.Text.Blank
import GovernedExpr.Text.Numeral

/-!
# The record of a stage

A record is a list of entries to which entries are only ever added.  What it says is read off
the list: for a key of a section the latest entry counts.

* `Entry` and `StageRecord`;
* `StageRecord.add` adds an entry;
* `StageRecord.get?`, `require`, `getInt` and `getFlag` read the value of a key;
* `StageRecord.sectionOf` lists the keys of a section in the order of their first entries, with
  their latest values, and `StageRecord.headings` lists the sections in that order.
-/

namespace GovernedExpr

open Text

/-- The value of a flag: one of five words for each truth value, in any case of ASCII letters and
between blanks. -/
def flagOf? (text : String) : Option Bool :=
  let word := plainWord text
  if ["true", "enabled", "yes", "on", "1"].contains word then some true
  else if ["false", "disabled", "no", "off", "0"].contains word then some false
  else none

/-- A value under a key of a section. -/
structure Entry where
  heading : String
  key : String
  value : String
  deriving DecidableEq, Inhabited

/-- The record that governs a stage. -/
structure StageRecord where
  stage : Stage
  name : String
  alignment : String
  version : String
  entries : List Entry
  deriving DecidableEq, Inhabited

namespace StageRecord

/-- The version of a record that does not state one. -/
def initialVersion : String := "1.0.0"

/-- A record without entries. -/
def new (stage : Stage) (name alignment : String) : StageRecord :=
  ⟨stage, name, alignment, initialVersion, []⟩

/-- Add an entry. -/
def add (r : StageRecord) (heading key value : String) : StageRecord :=
  { r with entries := r.entries ++ [⟨heading, key, value⟩] }

/-- The value of the latest entry for a key of a section. -/
def get? (r : StageRecord) (heading key : String) : Option String :=
  (r.entries.reverse.find? fun e => e.heading = heading && e.key = key).map Entry.value

/-- The value of a key that has to be present. -/
def require (r : StageRecord) (heading key : String) : Except GovernanceError String :=
  match r.get? heading key with
  | some value => .ok value
  | none => .error (.missingKey r.stage heading key)

/-- Read the value of a key, if it is present, as a value of another type. -/
def getAs {α : Type} (r : StageRecord) (heading key : String) (read : String → Option α)
    (expected : Expectation) : Except GovernanceError (Option α) :=
  match r.get? heading key with
  | none => .ok none
  | some value =>
    match read value with
    | some a => .ok (some a)
    | none => .error (.invalidValue r.stage heading key value expected)

/-- The value of a key as an integer of 64 bits; blanks around it are ignored. -/
def getInt (r : StageRecord) (heading key : String) : Except GovernanceError (Option Int) :=
  r.getAs heading key (fun value => Bounds.int64.read? (trim value)) .integer

/-- The value of a key as a flag. -/
def getFlag (r : StageRecord) (heading key : String) : Except GovernanceError (Option Bool) :=
  r.getAs heading key flagOf? .boolean

/-- Whether some entry belongs to a section. -/
def hasSection (r : StageRecord) (heading : String) : Bool :=
  r.entries.any fun e => e.heading = heading

/-- A section that has to be present. -/
def requireSection (r : StageRecord) (heading : String) : Except GovernanceError Unit :=
  if r.hasSection heading then .ok () else .error (.missingSection r.stage heading)

/-- Add a name to names without repetition. -/
def enlist (names : List String) (name : String) : List String :=
  if names.contains name then names else names ++ [name]

/-- The sections, in the order of their first entries. -/
def headings (r : StageRecord) : List String :=
  (r.entries.map Entry.heading).foldl enlist []

/-- Set the value of a key: in its place if the key is there, else at the end. -/
def setValue (key value : String) : List (String × String) → List (String × String)
  | [] => [(key, value)]
  | (k, v) :: rest => if k = key then (k, value) :: rest else (k, v) :: setValue key value rest

/-- The keys of a section in the order of their first entries, with their latest values. -/
def sectionOf (r : StageRecord) (heading : String) : List (String × String) :=
  (r.entries.filter fun e => e.heading = heading).foldl
    (fun pairs e => setValue e.key e.value pairs) []

end StageRecord

end GovernedExpr
