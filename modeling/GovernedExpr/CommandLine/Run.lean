import GovernedExpr.CommandLine.Arguments
import GovernedExpr.Governance.Overlay
import GovernedExpr.Pipeline

/-!
# Commands

* `Command.store` is the governance of a command;
* `tokenListing` and `stageListing` are what two of the commands print;
* `Command.perform` is what a command prints, or why it fails.
-/

namespace GovernedExpr.CommandLine

/-- Why a command fails. -/
inductive CommandError
  /-- There is no governance. -/
  | governance (cause : GovernanceError)
  /-- A stage fails. -/
  | execution (cause : ExecutionError)
  deriving DecidableEq

/-- The wording of a failure. -/
def CommandError.message : CommandError → String
  | governance cause => "Governance error: " ++ cause.message
  | execution cause => "Execution error: " ++ cause.message

/-! ### Listings -/

/-- Lines of text. -/
def linesText (lines : List String) : String :=
  String.join (lines.map fun line => line ++ "\n")

/-- The line of a token: its column, its kind, its value and its priority. -/
def tokenLine (t : Token) : String :=
  " ".intercalate [toString t.column, t.kind.name, t.value, toString t.priority]

/-- The lines of tokens. -/
def tokenListing (tokens : List Token) : String :=
  linesText (tokens.map tokenLine)

/-- The lines of a section: its heading, and below it the keys with their values. -/
def sectionLines (r : StageRecord) (heading : String) : List String :=
  ("  " ++ heading) ::
    (r.sectionOf heading).map fun (key, value) => "    " ++ key ++ " = " ++ value

/-- The lines of a record. -/
def recordLines (r : StageRecord) : List String :=
  (r.stage.label ++ " " ++ r.name ++ " (" ++ r.alignment ++ ") version " ++ r.version) ::
    r.headings.flatMap (sectionLines r)

/-- The lines of the records of a store. -/
def stageListing (s : GovernanceStore) : String :=
  linesText (s.records.flatMap recordLines)

/-! ### Commands -/

namespace Command

/-- The directory that a command takes its governance from. -/
def directory? : Command → Option String
  | run _ _ _ directory => directory
  | tokens _ directory => directory
  | stages directory => directory

/-- The governance of a command. -/
def store (files : Files) (c : Command) : Except GovernanceError GovernanceStore :=
  match c.directory? with
  | some directory => GovernanceStore.loadDirectory files directory
  | none => .ok .builtin

/-- What a command prints under a governance. -/
def performWith (s : GovernanceStore) : Command → Except ExecutionError String
  | run source format strict _ => (s.execute ⟨format, strict⟩ source).map RunOutput.rendered
  | tokens source _ => (s.tokenize source).map fun stream => tokenListing stream.tokens
  | stages _ => .ok (stageListing s)

/-- What a command prints. -/
def perform (files : Files) (c : Command) : Except CommandError String := do
  let s ← (c.store files).mapError .governance
  (c.performWith s).mapError .execution

end Command

/-- What is printed where the version is asked for. -/
def versionText : String := "rift 0.1.0\n"

end GovernedExpr.CommandLine
