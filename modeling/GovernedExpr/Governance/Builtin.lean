import GovernedExpr.Governance.Record

/-!
# Built-in governance

For each stage the document that governs it when no other is given, and the record that the
document describes.

* `builtinDocument` is the text of the document;
* `builtinRecord` is the record.
-/

namespace GovernedExpr

/-- The lines of the built-in document of a stage. -/
def builtinLines : Stage → List String
  | .tokenizer => [
    "# RIFT-0: tokenizer governance",
    "stage_id: 0",
    "stage_name: TOKENIZER",
    "sp_alignment: LEXICAL_ANALYSIS",
    "governance_version: \"1.0.0\"",
    "sections:",
    "  TOKEN_PATTERNS:",
    "    IDENTIFIER_PATTERN: '^[a-zA-Z_]\\w*$'",
    "    IDENTIFIER_PRIORITY: 100",
    "    NUMBER_PATTERN: '^\\d+(\\.\\d+)?$'",
    "    NUMBER_PRIORITY: 90",
    "    OPERATOR_PATTERN: '^[+\\-*/=<>!&|]$'",
    "    OPERATOR_PRIORITY: 80",
    "    WHITESPACE_PATTERN: '^\\s+$'",
    "    WHITESPACE_PRIORITY: 10",
    "  DFA_CONFIGURATION:",
    "    initial_state: START",
    "    final_states: IDENTIFIER,NUMBER,OPERATOR",
    "    error_recovery: true",
    "    reject_empty_input: false"]
  | .parser => [
    "# RIFT-1: parser bridge governance",
    "stage_id: 1",
    "stage_name: PARSER_BRIDGE",
    "sp_alignment: SYNTACTIC_ANALYSIS",
    "governance_version: \"1.0.0\"",
    "sections:",
    "  GRAMMAR_RULES:",
    "    EXPRESSION_RULE: \"expression -> term ((PLUS | MINUS) term)*\"",
    "    TERM_RULE: \"term -> factor ((MULTIPLY | DIVIDE) factor)*\"",
    "    FACTOR_RULE: \"factor -> IDENTIFIER | NUMBER\"",
    "  PRECEDENCE_TABLE:",
    "    MULTIPLY_PRECEDENCE: 20",
    "    DIVIDE_PRECEDENCE: 20",
    "    PLUS_PRECEDENCE: 10",
    "    MINUS_PRECEDENCE: 10",
    "  PARSER_OPTIONS:",
    "    missing_operand: reject"]
  | .coordinator => [
    "# RIFT-2: AST coordinator governance",
    "stage_id: 2",
    "stage_name: AST_COORDINATOR",
    "sp_alignment: SEMANTIC_ANALYSIS",
    "governance_version: \"1.0.0\"",
    "sections:",
    "  OPTIMIZATION_PASSES:",
    "    constant_folding: enabled",
    "    dead_code_elimination: enabled",
    "    common_subexpression_elimination: disabled"]
  | .output => [
    "# RIFT-3: output generator governance",
    "stage_id: 3",
    "stage_name: OUTPUT_GENERATOR",
    "sp_alignment: CODE_GENERATION",
    "governance_version: \"1.0.0\"",
    "sections:",
    "  OUTPUT_FORMATS:",
    "    primary_format: LISP_STYLE_AST",
    "    secondary_format: C_CODE",
    "    debug_format: DOT_GRAPH",
    "    json_export: enabled"]

/-- The built-in document of a stage. -/
def builtinDocument (stage : Stage) : String :=
  String.join ((builtinLines stage).map fun line => line ++ "\n")

/-- The name, the alignment and the entries of the built-in record of a stage. -/
def builtinContent : Stage → String × String × List Entry
  | .tokenizer => ("TOKENIZER", "LEXICAL_ANALYSIS", [
    ⟨"TOKEN_PATTERNS", "IDENTIFIER_PATTERN", "^[a-zA-Z_]\\w*$"⟩,
    ⟨"TOKEN_PATTERNS", "IDENTIFIER_PRIORITY", "100"⟩,
    ⟨"TOKEN_PATTERNS", "NUMBER_PATTERN", "^\\d+(\\.\\d+)?$"⟩,
    ⟨"TOKEN_PATTERNS", "NUMBER_PRIORITY", "90"⟩,
    ⟨"TOKEN_PATTERNS", "OPERATOR_PATTERN", "^[+\\-*/=<>!&|]$"⟩,
    ⟨"TOKEN_PATTERNS", "OPERATOR_PRIORITY", "80"⟩,
    ⟨"TOKEN_PATTERNS", "WHITESPACE_PATTERN", "^\\s+$"⟩,
    ⟨"TOKEN_PATTERNS", "WHITESPACE_PRIORITY", "10"⟩,
    ⟨"DFA_CONFIGURATION", "initial_state", "START"⟩,
    ⟨"DFA_CONFIGURATION", "final_states", "IDENTIFIER,NUMBER,OPERATOR"⟩,
    ⟨"DFA_CONFIGURATION", "error_recovery", "true"⟩,
    ⟨"DFA_CONFIGURATION", "reject_empty_input", "false"⟩])
  | .parser => ("PARSER_BRIDGE", "SYNTACTIC_ANALYSIS", [
    ⟨"GRAMMAR_RULES", "EXPRESSION_RULE", "expression -> term ((PLUS | MINUS) term)*"⟩,
    ⟨"GRAMMAR_RULES", "TERM_RULE", "term -> factor ((MULTIPLY | DIVIDE) factor)*"⟩,
    ⟨"GRAMMAR_RULES", "FACTOR_RULE", "factor -> IDENTIFIER | NUMBER"⟩,
    ⟨"PRECEDENCE_TABLE", "MULTIPLY_PRECEDENCE", "20"⟩,
    ⟨"PRECEDENCE_TABLE", "DIVIDE_PRECEDENCE", "20"⟩,
    ⟨"PRECEDENCE_TABLE", "PLUS_PRECEDENCE", "10"⟩,
    ⟨"PRECEDENCE_TABLE", "MINUS_PRECEDENCE", "10"⟩,
    ⟨"PARSER_OPTIONS", "missing_operand", "reject"⟩])
  | .coordinator => ("AST_COORDINATOR", "SEMANTIC_ANALYSIS", [
    ⟨"OPTIMIZATION_PASSES", "constant_folding", "enabled"⟩,
    ⟨"OPTIMIZATION_PASSES", "dead_code_elimination", "enabled"⟩,
    ⟨"OPTIMIZATION_PASSES", "common_subexpression_elimination", "disabled"⟩])
  | .output => ("OUTPUT_GENERATOR", "CODE_GENERATION", [
    ⟨"OUTPUT_FORMATS", "primary_format", "LISP_STYLE_AST"⟩,
    ⟨"OUTPUT_FORMATS", "secondary_format", "C_CODE"⟩,
    ⟨"OUTPUT_FORMATS", "debug_format", "DOT_GRAPH"⟩,
    ⟨"OUTPUT_FORMATS", "json_export", "enabled"⟩])

/-- The built-in record of a stage. -/
def builtinRecord (stage : Stage) : StageRecord :=
  let (name, alignment, entries) := builtinContent stage
  ⟨stage, name, alignment, StageRecord.initialVersion, entries⟩

@[simp] theorem stage_builtinRecord (stage : Stage) : (builtinRecord stage).stage = stage := rfl

end GovernedExpr
