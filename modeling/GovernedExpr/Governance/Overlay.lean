import GovernedExpr.Files.View
import GovernedExpr.Governance.Document
import GovernedExpr.Governance.Store

/-!
# Records from files

* `loadFile` reads the record that a file describes;
* `loadOverride` reads the record of a stage from the file in a directory that bears the name of
  the stage's document, if it is there;
* `GovernanceStore.loadDirectory` overlays the built-in records with those of a directory.
-/

namespace GovernedExpr

/-- Read the record that the file at a path describes. -/
def loadFile (files : Files) (path : String) : Except GovernanceError StageRecord :=
  match (files path).text with
  | .error cause => .error (.unreadable path cause)
  | .ok text => readRecord text

/-- Read the record of a stage from a directory.  The file has to describe that stage; if there is
no such file, there is no record. -/
def loadOverride (files : Files) (directory : String) (stage : Stage) :
    Except GovernanceError (Option StageRecord) := do
  let path := below directory stage.fileName
  if (files path).isFile then
    let r ← loadFile files path
    if r.stage = stage then return some r else .error (.stageMismatch stage r.stage)
  else return none

/-- The built-in records, overlaid with the records of a directory. -/
def GovernanceStore.loadDirectory (files : Files) (directory : String) :
    Except GovernanceError GovernanceStore :=
  if (files directory).isDirectory then
    Stage.all.foldlM
      (fun s stage => return ((← loadOverride files directory stage).elim s s.insert)) .builtin
  else .error (.unreadable directory .noRecords)

end GovernedExpr
