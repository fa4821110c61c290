import GovernedExpr.Governance.Settings
import GovernedExpr.Governance.Store
import GovernedExpr.Parsing.Cursor

/-!
# The pipeline

A text runs through the four stages in order.  Each stage first looks up its record and derives
its settings, so the first stage that fails decides.

* `RunOptions` may ask for a format, and may ask that no token is left over;
* `RunOutput` is what the stages come to;
* `GovernanceStore.tokenize`, `GovernanceStore.parse`, `GovernanceStore.measure` and
  `GovernanceStore.write` run one stage each, `GovernanceStore.execute` runs them all.
-/

namespace GovernedExpr

/-- Why a run fails. -/
inductive ExecutionError
  | governance (cause : GovernanceError)
  | lexing (cause : LexingError)
  | parsing (cause : ParseError)
  | format (cause : FormatError)
  deriving DecidableEq

/-- The wording of the cause of a failure. -/
def ExecutionError.message : ExecutionError → String
  | governance cause => cause.message
  | lexing cause => cause.message
  | parsing cause => cause.message
  | format cause => cause.message

/-- What is asked of one run. -/
structure RunOptions where
  /-- The format of the output; the primary format of the governance if none is asked for. -/
  format : Option String
  /-- Whether every token has to be consumed. -/
  strict : Bool
  deriving DecidableEq, Inhabited

/-- Nothing is asked for. -/
def RunOptions.default : RunOptions := ⟨none, false⟩

/-- What the stages come to. -/
structure RunOutput where
  tokens : TokenStream
  tree : Option Tree
  /-- The number of tokens that were read; what follows them is ignored. -/
  consumed : Nat
  report : Report
  format : String
  rendered : String
  deriving DecidableEq

/-- Whether every token was read. -/
def RunOutput.isComplete (o : RunOutput) : Bool :=
  o.consumed = o.tokens.length

namespace GovernanceStore

/-- The settings of a stage, derived from its record. -/
def settings {α : Type} (s : GovernanceStore) (stage : Stage)
    (derive : StageRecord → Except GovernanceError α) : Except ExecutionError α :=
  (s.record stage >>= derive).mapError .governance

/-- Run the first stage. -/
def tokenize (s : GovernanceStore) (source : String) : Except ExecutionError TokenStream := do
  let lexing ← s.settings .tokenizer StageRecord.lexingSettings
  ((Tokenizer.ofSettings lexing).tokenize source).mapError .lexing

/-- Run the second stage on tokens: the tree, and the number of tokens read. -/
def parse (s : GovernanceStore) (options : RunOptions) (tokens : TokenStream) :
    Except ExecutionError (Option Tree × Nat) := do
  let parsing ← s.settings .parser StageRecord.parserSettings
  let parser := Parser.new parsing tokens
  let (outcome, parser) := if options.strict then parser.parseComplete else parser.parse
  let tree ← outcome.mapError .parsing
  return (tree, parser.position)

/-- Run the third stage on a tree. -/
def measure (s : GovernanceStore) (tree : Option Tree) : Except ExecutionError Report := do
  let passes ← s.settings .coordinator StageRecord.passes
  return coordinate passes tree

/-- Run the fourth stage on a tree: the format, and the text in that format. -/
def write (s : GovernanceStore) (options : RunOptions) (tree : Option Tree) :
    Except ExecutionError (String × String) := do
  let output ← s.settings .output StageRecord.outputSettings
  let format := options.format.getD output.primaryFormat
  let rendered ← ((FormatRegistry.ofSettings output).render tree format).mapError .format
  return (format, rendered)

/-- Run all stages. -/
def execute (s : GovernanceStore) (options : RunOptions) (source : String) :
    Except ExecutionError RunOutput := do
  let tokens ← s.tokenize source
  let (tree, consumed) ← s.parse options tokens
  let report ← s.measure tree
  let (format, rendered) ← s.write options tree
  return ⟨tokens, tree, consumed, report, format, rendered⟩

end GovernanceStore

end GovernedExpr
