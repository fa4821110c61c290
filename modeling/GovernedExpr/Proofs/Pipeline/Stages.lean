import GovernedExpr.Pipeline
import GovernedExpr.Proofs.Governance.Levels
import GovernedExpr.Proofs.Lexing.Lexemes

/-!
# What a successful run says

Each stage of the pipeline derives its settings and does its work.  A run succeeds exactly when
each stage does, on what the stages before it came to.

* `GovernanceStore.parse_eq` says that the parser of the second stage, whose levels are bytes, reads
  what climbing along the list of tokens does;
* `GovernanceStore.tokenize_eq_ok_iff`, `parse_eq_ok_iff` and `measure_eq_ok_iff` say what the success
  of a stage means; a strict run of the second stage differs from one that is not in a condition on
  the number of tokens that were read;
* `GovernanceStore.execute_eq_ok_iff` says what the success of a whole run means;
* `GovernanceStore.sumsFirst` is a governance unlike the built-in one, with a run under it.
-/

namespace GovernedExpr

/-! ### How far parsing reads -/

variable {p : ParserSettings} {ts : List Token}

theorem Parsed.eq_mk_iff {r : Parsed} {outcome : Except ParseError (Option Tree)} {k : Nat} :
    r = ⟨outcome, k⟩ ↔ r.outcome = outcome ∧ r.position = k := by
  cases r
  simp

theorem Parsed.exists_ok_iff {r : Parsed} {tree : Option Tree} {k : Nat} :
    (∃ t, r.outcome = .ok t ∧ t = tree ∧ r.position = k) ↔ r = ⟨.ok tree, k⟩ := by
  rw [eq_mk_iff]
  constructor
  · rintro ⟨t, ht, rfl, hk⟩
    exact ⟨ht, hk⟩
  · rintro ⟨ht, hk⟩
    exact ⟨tree, ht, rfl, hk⟩

theorem position_parse_le (p : ParserSettings) (ts : List Token) :
    (parse p ts).position ≤ ts.length := by
  cases ts with
  | nil => exact Nat.le_refl 0
  | cons first rest =>
    rw [parse]
    split
    · split <;> exact Nat.zero_le _
    · exact Nat.sub_le _ _
    · exact Nat.sub_le _ _

@[simp] theorem position_parseComplete (p : ParserSettings) (ts : List Token) :
    (parseComplete p ts).position = (parse p ts).position := by
  unfold parseComplete
  dsimp only
  split <;> rfl

/-- Reading the tokens completely is reading them, to their end. -/
theorem parseComplete_eq_mk_ok_iff {root : Option Tree} {k : Nat} :
    parseComplete p ts = ⟨.ok root, k⟩ ↔ parse p ts = ⟨.ok root, k⟩ ∧ k = ts.length := by
  have := position_parse_le p ts
  rw [Parsed.eq_mk_iff, Parsed.eq_mk_iff, parseComplete_eq_ok_iff, position_parseComplete]
  constructor
  · rintro ⟨⟨ht, hlen⟩, rfl⟩
    exact ⟨⟨ht, rfl⟩, Nat.le_antisymm this hlen⟩
  · rintro ⟨⟨ht, rfl⟩, hlen⟩
    exact ⟨⟨ht, Nat.le_of_eq hlen.symm⟩, rfl⟩

/-! ### The stages -/

namespace GovernanceStore

variable {s : GovernanceStore} {options : RunOptions} {source : String} {tokens : TokenStream}
  {tree : Option Tree} {consumed : Nat} {report : Report} {format rendered : String}
  {out : RunOutput}

theorem tokenize_eq_ok_iff : s.tokenize source = .ok tokens ↔
    ∃ lexing, s.settings .tokenizer StageRecord.lexingSettings = .ok lexing ∧
      (Tokenizer.ofSettings lexing).streamOf source = tokens ∧
      (tokens.isEmpty = true → lexing.rejectEmptyInput = false) := by
  simp only [tokenize, bind_eq_ok_iff, mapError_eq_ok_iff, Tokenizer.tokenize_eq_ok_iff]
  rfl

/-- **The second stage climbs along the tokens.**  The levels of a record are such that its parser,
which counts them in bytes, reads what climbing reads. -/
theorem parse_eq (s : GovernanceStore) (options : RunOptions) (tokens : TokenStream) :
    s.parse options tokens = do
      let p ← s.settings .parser StageRecord.parserSettings
      let parsed :=
        if options.strict then parseComplete p tokens.tokens else GovernedExpr.parse p tokens.tokens
      let tree ← parsed.outcome.mapError .parsing
      return (tree, parsed.position) := by
  unfold parse
  cases derived : s.settings .parser StageRecord.parserSettings with
  | error e => rfl
  | ok p =>
    obtain ⟨r, -, settings⟩ := bind_eq_ok_iff.1 (mapError_eq_ok_iff.1 derived)
    have bytes := (StageRecord.isAdmitted_of_parserSettings settings).all_le
    have read : Parser.parsed (Parser.new p tokens).parse = GovernedExpr.parse p tokens.tokens :=
      Parser.parsed_parse bytes
    have whole : Parser.parsed (Parser.new p tokens).parseComplete =
        parseComplete p tokens.tokens := Parser.parsed_parseComplete bytes
    simp only [bind, Except.bind, ← read, ← whole]
    cases options.strict <;> rfl

/-- A strict run of the second stage reads what one that is not strict reads, but has to read all
tokens. -/
theorem parse_eq_ok_iff : s.parse options tokens = .ok (tree, consumed) ↔
    ∃ p, s.settings .parser StageRecord.parserSettings = .ok p ∧
      GovernedExpr.parse p tokens.tokens = ⟨.ok tree, consumed⟩ ∧
      (options.strict = true → consumed = tokens.length) := by
  simp only [parse_eq, bind_eq_ok_iff, mapError_eq_ok_iff, pure, Except.pure, Except.ok.injEq,
    Prod.mk.injEq]
  refine exists_congr fun p => and_congr_right fun _ => ?_
  rw [Parsed.exists_ok_iff]
  cases options.strict with
  | true => simp [parseComplete_eq_mk_ok_iff, TokenStream.length]
  | false => simp

theorem measure_eq_ok_iff : s.measure tree = .ok report ↔
    ∃ passes, s.settings .coordinator StageRecord.passes = .ok passes ∧
      coordinate passes tree = report := by
  simp only [measure, bind_eq_ok_iff, pure, Except.pure, Except.ok.injEq]

/-- **A run succeeds exactly when its four stages do**, each on what those before it came to. -/
theorem execute_eq_ok_iff : s.execute options source = .ok out ↔
    s.tokenize source = .ok out.tokens ∧
      s.parse options out.tokens = .ok (out.tree, out.consumed) ∧
      s.measure out.tree = .ok out.report ∧
      s.write options out.tree = .ok (out.format, out.rendered) := by
  simp only [execute, bind_eq_ok_iff, pure, Except.pure, Except.ok.injEq]
  constructor
  · rintro ⟨tokens, htokens, ⟨tree, consumed⟩, hparse, report, hreport, ⟨format, rendered⟩, hwrite,
      rfl⟩
    exact ⟨htokens, hparse, hreport, hwrite⟩
  · rintro ⟨htokens, hparse, hreport, hwrite⟩
    exact ⟨_, htokens, _, hparse, _, hreport, _, hwrite, rfl⟩

/-! ### A governance and a run -/

/-- The built-in governance with other patterns and sums that bind tighter than products.  It
refuses texts without lexemes, leaves an operator without an operand behind, and allows no JSON. -/
def sumsFirst : GovernanceStore :=
  let tokenizer := (((builtinRecord .tokenizer).add tokenPatterns "IDENTIFIER_PATTERN" "[a-z]+").add
    tokenPatterns "NUMBER_PATTERN" "[0-9]+").add dfaConfiguration "reject_empty_input" "true"
  let parser := ((builtinRecord .parser).add precedenceTable "PLUS_PRECEDENCE" "30").add
    parserOptions "missing_operand" "truncate"
  let output := (builtinRecord .output).add outputFormats "json_export" "off"
  ((builtin.insert tokenizer).insert parser).insert output

end GovernanceStore

/-- What `a * b + 2 - @ c` comes to under that governance. -/
def RunOutput.sumsFirst : RunOutput where
  tokens := .ofList [⟨.identifier, "a", 1, 1, 100⟩, ⟨.operator, "*", 1, 2, 80⟩,
    ⟨.identifier, "b", 1, 3, 100⟩, ⟨.operator, "+", 1, 4, 80⟩, ⟨.number, "2", 1, 5, 90⟩,
    ⟨.operator, "-", 1, 6, 80⟩, ⟨.unknown, "@", 1, 7, 0⟩, ⟨.identifier, "c", 1, 8, 100⟩]
  tree := some (.binary "*" (.identifier "a") (.binary "+" (.identifier "b") (.number "2")))
  consumed := 5
  report := ⟨5, 3, 3, [⟨"constant_folding", true⟩, ⟨"dead_code_elimination", true⟩,
    ⟨"common_subexpression_elimination", false⟩]⟩
  format := "LISP_STYLE_AST"
  rendered := "(AST\n  (BinOp *\n    (Identifier a)\n    (BinOp +\n      (Identifier b)\n" ++
    "      (Number 2)\n    )\n  )\n)\n"

theorem GovernanceStore.execute_sumsFirst :
    sumsFirst.execute ⟨none, false⟩ "a * b + 2 - @ c" = .ok .sumsFirst :=
  toOption_eq_some_iff.1 (by decide +kernel)

end GovernedExpr
