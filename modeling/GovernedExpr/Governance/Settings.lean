import GovernedExpr.Governance.Record
import GovernedExpr.Lexing.Tokenizer
import GovernedExpr.Parsing.Settings
import GovernedExpr.Tree.Coordination
import GovernedExpr.Format.Registry

/-!
# From records to settings

Each stage runs on settings with fixed fields, which are derived from its record.

* `stemOf?` takes the ending off a key such as `NUMBER_PATTERN`;
* `StageRecord.lexingSettings`, `parserSettings`, `passes` and `outputSettings` derive the
  settings of the four stages, or tell what keeps the record from giving them.
-/

namespace GovernedExpr

open Text

/-- Names of sections. -/
def tokenPatterns : String := "TOKEN_PATTERNS"

@[inherit_doc tokenPatterns]
def dfaConfiguration : String := "DFA_CONFIGURATION"

@[inherit_doc tokenPatterns]
def precedenceTable : String := "PRECEDENCE_TABLE"

@[inherit_doc tokenPatterns]
def parserOptions : String := "PARSER_OPTIONS"

@[inherit_doc tokenPatterns]
def optimizationPasses : String := "OPTIMIZATION_PASSES"

@[inherit_doc tokenPatterns]
def outputFormats : String := "OUTPUT_FORMATS"

/-- Whether a list is a name in capitals: a capital letter, then capital letters, digits and
underscores. -/
def isCapitalName : List Char → Bool
  | [] => false
  | c :: rest => c.isUpper && rest.all fun c => c.isUpper || c.isDigit || c = '_'

/-- The name in capitals that stands in a key before an ending. -/
def stemOf? (ending key : String) : Option String :=
  let key := key.toList
  let stem := key.take (key.length - ending.toList.length)
  if stem ++ ending.toList = key && isCapitalName stem then some (String.ofList stem) else none

namespace StageRecord

/-- Whether the record is that of the stage it is used for. -/
def expectStage (r : StageRecord) (expected : Stage) : Except GovernanceError Unit :=
  if r.stage = expected then .ok () else .error (.stageMismatch expected r.stage)

/-- The rule of a key of the section of patterns; other keys than those of patterns have none. -/
def tokenRule? (r : StageRecord) (key pattern : String) :
    Except GovernanceError (Option TokenRule) :=
  match stemOf? "_PATTERN" key with
  | none => .ok none
  | some name =>
    match TokenKind.ofName? name with
    | none => .error (.unknownTokenKind name)
    | some kind => do
      let priorityKey := name ++ "_PRIORITY"
      let text ← r.require tokenPatterns priorityKey
      match Bounds.int32.read? (trim text) with
      | some priority => .ok (some ⟨pattern, kind, priority⟩)
      | none => .error (.invalidValue r.stage tokenPatterns priorityKey text .integer)

/-- The rules of the section of patterns, in its order. -/
def tokenRules (r : StageRecord) : Except GovernanceError (List TokenRule) := do
  let rules ← (r.sectionOf tokenPatterns).mapM fun (key, pattern) => r.tokenRule? key pattern
  return rules.filterMap fun rule => rule

/-- The settings of tokenization. -/
def lexingSettings (r : StageRecord) : Except GovernanceError LexingSettings := do
  r.expectStage .tokenizer
  r.requireSection tokenPatterns
  let rules ← r.tokenRules
  let rejectEmptyInput ← r.getFlag dfaConfiguration "reject_empty_input"
  let errorRecovery ← r.getFlag dfaConfiguration "error_recovery"
  return ⟨rules, rejectEmptyInput.getD false, errorRecovery.getD true⟩

/-- The symbol of an operator with a name. -/
def operatorSymbol? (name : String) : Option String :=
  if name = "PLUS" then some "+"
  else if name = "MINUS" then some "-"
  else if name = "MULTIPLY" then some "*"
  else if name = "DIVIDE" then some "/"
  else none

/-- The levels that an operator may have. -/
def levelBounds : Bounds := ⟨1, 254⟩

/-- Set the level of the operator of a key; keys that end otherwise set none. -/
def setLevel (r : StageRecord) (table : PrecedenceTable) (key value : String) :
    Except GovernanceError PrecedenceTable :=
  match stemOf? "_PRECEDENCE" key with
  | none => .ok table
  | some name =>
    match operatorSymbol? name with
    | none => .error (.unknownOperator name)
    | some symbol =>
      match levelBounds.read? (trim value) with
      | some level => .ok (table.insert symbol level.toNat)
      | none => .error (.invalidValue r.stage precedenceTable key value .level)

/-- The table of the section of levels. -/
def levels (r : StageRecord) : Except GovernanceError PrecedenceTable :=
  (r.sectionOf precedenceTable).foldlM (fun table (key, value) => r.setLevel table key value)
    .empty

/-- The settings of parsing. -/
def parserSettings (r : StageRecord) : Except GovernanceError ParserSettings := do
  r.expectStage .parser
  r.requireSection precedenceTable
  let levels ← r.levels
  let missingOperand ← r.getAs parserOptions "missing_operand" MissingOperand.ofText? .policy
  return ⟨levels, missingOperand.getD .reject⟩

/-- The passes over the tree, in the order of their section. -/
def passes (r : StageRecord) : Except GovernanceError (List Pass) := do
  r.expectStage .coordinator
  (r.sectionOf optimizationPasses).mapM fun (name, _) => do
    let enabled ← r.getFlag optimizationPasses name
    return ⟨name, enabled.getD false⟩

/-- The settings of output. -/
def outputSettings (r : StageRecord) : Except GovernanceError OutputSettings := do
  r.expectStage .output
  r.requireSection outputFormats
  let primaryFormat ← r.require outputFormats "primary_format"
  let jsonExport ← r.getFlag outputFormats "json_export"
  let debugOutput ← r.getFlag outputFormats "debug_output"
  return {
    primaryFormat := primaryFormat
    secondaryFormat := r.get? outputFormats "secondary_format"
    debugFormat := r.get? outputFormats "debug_format"
    jsonExport := jsonExport.getD false
    debugOutput := debugOutput.getD false }

end StageRecord

end GovernedExpr
