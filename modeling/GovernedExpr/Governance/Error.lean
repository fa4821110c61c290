import GovernedExpr.Governance.Stage

/-!
# Errors of governance

* `DocumentError` is what can be wrong with a document whose notation is right, or that its
  notation is wrong;
* `FileError` is why a file gives no text;
* `Expectation` is what a value should have been;
* `GovernanceError` lists the causes, `GovernanceError.message` is their wording.
-/

namespace GovernedExpr

/-- What is wrong with a document. -/
inductive DocumentError
  /-- It is not well-formed, or its fields are not those of a record. -/
  | malformed
  /-- The name of a section is no scalar. -/
  | sectionName
  /-- A section is neither empty nor a mapping. -/
  | sectionBody (heading : String)
  /-- A key of a section is no scalar. -/
  | key (heading : String)
  /-- A value of a section is no scalar. -/
  | value (heading name : String)
  deriving DecidableEq

/-- The wording of what is wrong with a document; that of a malformed one is left open. -/
def DocumentError.message : DocumentError → String
  | malformed => ""
  | sectionName => "section names must be scalars"
  | sectionBody heading => "section '" ++ heading ++ "' must be a mapping of keys to values"
  | key heading => "section '" ++ heading ++ "' has a non-scalar key"
  | value heading name => "key '" ++ heading ++ "." ++ name ++ "' must have a scalar value"

/-- Why a path gives no text. -/
inductive FileError
  /-- Nothing is there. -/
  | notFound
  /-- A directory is there. -/
  | isDirectory
  /-- What is there is closed to the reader. -/
  | permissionDenied
  /-- The path goes on below something that is no directory. -/
  | notDirectory
  /-- The name of a file is too long. -/
  | nameTooLong
  /-- The path holds a character that no name of a file may hold. -/
  | nameHasNul
  /-- The bytes are no text. -/
  | notText
  /-- Records should be there, and it is no directory. -/
  | noRecords
  deriving DecidableEq

/-- The wording of a reason why a path gives no text. -/
def FileError.message : FileError → String
  | notFound => "No such file or directory (os error 2)"
  | isDirectory => "Is a directory (os error 21)"
  | permissionDenied => "Permission denied (os error 13)"
  | notDirectory => "Not a directory (os error 20)"
  | nameTooLong => "File name too long (os error 36)"
  | nameHasNul => "file name contained an unexpected NUL byte"
  | notText => "stream did not contain valid UTF-8"
  | noRecords => "not a directory"

/-- What a value should have been. -/
inductive Expectation
  | integer
  | boolean
  | level
  | policy
  deriving DecidableEq

/-- The wording of what a value should have been. -/
def Expectation.text : Expectation → String
  | integer => "an integer"
  | boolean => "a boolean"
  | level => "an integer in 1..=254"
  | policy => "'reject' or 'truncate'"

/-- Why governance is not what a stage needs. -/
inductive GovernanceError
  | unknownStage (id : Int)
  | stageNotLoaded (stage : Stage)
  | stageMismatch (expected found : Stage)
  | missingSection (stage : Stage) (heading : String)
  | missingKey (stage : Stage) (heading key : String)
  | invalidValue (stage : Stage) (heading key value : String) (expected : Expectation)
  | unknownTokenKind (name : String)
  | unknownOperator (name : String)
  | document (cause : DocumentError)
  | unreadable (path : String) (cause : FileError)
  deriving DecidableEq

/-- The wording of an error of governance. -/
def GovernanceError.message : GovernanceError → String
  | unknownStage id => "Stage id " ++ toString id ++ " is outside RIFT-0..RIFT-3"
  | stageNotLoaded stage => "Stage " ++ stage.label ++ " configuration is not loaded"
  | stageMismatch expected found =>
    "Expected a " ++ expected.label ++ " configuration, found " ++ found.label
  | missingSection stage heading =>
    "Stage " ++ stage.label ++ " is missing section '" ++ heading ++ "'"
  | missingKey stage heading key =>
    "Stage " ++ stage.label ++ " is missing key '" ++ heading ++ "." ++ key ++ "'"
  | invalidValue stage heading key value expected =>
    "Stage " ++ stage.label ++ " key '" ++ heading ++ "." ++ key ++ "' is '" ++ value ++
      "', expected " ++ expected.text
  | unknownTokenKind name => "Unknown token kind '" ++ name ++ "'"
  | unknownOperator name => "Unknown operator name '" ++ name ++ "'"
  | document cause => "Invalid governance document: " ++ cause.message
  | unreadable path cause => "Cannot read '" ++ path ++ "': " ++ cause.message

end GovernedExpr
