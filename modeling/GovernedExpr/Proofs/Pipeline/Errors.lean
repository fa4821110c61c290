import GovernedExpr.Proofs.Governance.Explained
import GovernedExpr.Proofs.Pipeline.Options
import GovernedExpr.Proofs.Pipeline.Progress

/-!
# What errors of runs say

The error of a run names what is wrong: a stage without a record, a section or a key that is missing,
a value that cannot be read, a token that does not fit, a format that nothing writes.  What it says is
so in the store, whose records stand under their own stages, and errors that could only be about
something else never occur.

* `missingOperand_of_parse` and `parseComplete_eq_error` say when parsing fails;
* `ExecutionError.HoldsIn` is what an error says of a store and of a run;
* `GovernanceStore.tokenize_error_holds` and its companions say that the errors of the stages hold,
  and `execute_error_holds` says so of runs.
-/

namespace GovernedExpr

/-! ### When parsing fails -/

section Parsing

variable {p : ParserSettings} {tokens : List Token} {e : ParseError}

/-- A token that is left over after an expression. -/
def ParseError.IsLeftOver : ParseError → Prop
  | unexpectedToken _ _ _ => True
  | missingOperand _ _ | expectedOperand _ _ _ => False

/-- Reading fails at an operand that is missing, if such an operand is to be reported. -/
theorem missingOperand_of_parse (h : (parse p tokens).outcome = .error e) :
    p.missingOperand = .reject ∧ ¬ e.IsLeftOver := by
  cases tokens with
  | nil => cases h
  | cons first tail =>
    -- an operand may be missing at the start, or behind an operator that the loop has taken
    cases operand : first.operand? with
    | none =>
      rw [parse_of_operand?_eq_none operand] at h
      cases hp : p.missingOperand with
      | reject =>
        rw [hp] at h
        cases h
        exact ⟨rfl, id⟩
      | truncate =>
        rw [hp] at h
        cases h
    | some leaf =>
      have final := (climbs_climb p 0 leaf tail).final
      rw [parse_of_expression (expression_cons operand)] at h
      cases hc : climb p 0 leaf tail with
      | tree t rest halted =>
        rw [hc] at h
        cases h
      | missing operator rest =>
        rw [hc] at h final
        cases h
        exact ⟨final.1, id⟩

/-- Reading everything fails where reading does, or at a token that is left over. -/
theorem parseComplete_eq_error (h : (parseComplete p tokens).outcome = .error e) :
    (parse p tokens).outcome = .error e ∨ e.IsLeftOver := by
  unfold parseComplete at h
  dsimp only at h
  split at h
  · cases h
    exact .inr trivial
  · exact .inl h

end Parsing

/-! ### Errors that hold -/

/-- What the error of a run says is so: of the store, of the text and of what was asked for. -/
def ExecutionError.HoldsIn (s : GovernanceStore) (options : RunOptions) (source : String) :
    ExecutionError → Prop
  | governance cause => cause.HoldsIn s
  | lexing .emptyInput => Text.lexemes source = [] ∧
    ∃ lexing, s.settings .tokenizer StageRecord.lexingSettings = .ok lexing ∧
      lexing.rejectEmptyInput = true
  | parsing (.unexpectedToken _ _ _) => options.strict = true
  | parsing (.missingOperand _ _) | parsing (.expectedOperand _ _ _) =>
    ∃ p, s.settings .parser StageRecord.parserSettings = .ok p ∧ p.missingOperand = .reject
  | format (.notFound name) =>
    ∃ output, s.settings .output StageRecord.outputSettings = .ok output ∧
      options.format.getD output.primaryFormat = name ∧
      (FormatRegistry.ofSettings output).get? name = none
  | format (.serialization _) => False

namespace GovernanceStore

variable {s : GovernanceStore} {options : RunOptions} {source : String} {tokens : TokenStream}
  {tree : Option Tree} {e : ExecutionError}

/-- The settings of a stage cannot be derived: the stage has no record, or the derivation fails with
an error that holds. -/
theorem settings_error_holds {α : Type} {stage : Stage}
    {derive : StageRecord → Except GovernanceError α}
    (explains : ∀ r, s.record? r.stage = some r → r.stage = stage → s.Explains (derive r))
    (h : s.settings stage derive = .error e) : e.HoldsIn s options source := by
  obtain ⟨cause, hcause, rfl⟩ := mapError_eq_error_iff.1 h
  show cause.HoldsIn s
  unfold record at hcause
  cases hr : s.record? stage with
  | none =>
    rw [hr] at hcause
    cases hcause
    exact hr
  | some r =>
    rw [hr] at hcause
    obtain rfl := s.filed stage r hr
    exact explains r hr rfl cause hcause

theorem tokenize_error_holds (h : s.tokenize source = .error e) :
    e.HoldsIn s options source := by
  obtain h | ⟨lexing, hlexing, h⟩ := bind_eq_error_iff.1 h
  · exact settings_error_holds (fun r => explains_lexingSettings) h
  · obtain ⟨cause, hcause, rfl⟩ := mapError_eq_error_iff.1 h
    unfold Tokenizer.tokenize at hcause
    dsimp only at hcause
    split at hcause
    next refused =>
      cases hcause
      obtain ⟨isEmpty, rejects⟩ := Bool.and_eq_true_iff.1 refused
      refine ⟨?_, lexing, hlexing, rejects⟩
      -- the values of the tokens are the lexemes
      have none : ((Tokenizer.ofSettings lexing).streamOf source).tokens = [] :=
        List.isEmpty_iff.1 isEmpty
      rw [← Tokenizer.values_streamOf (Tokenizer.ofSettings lexing), TokenStream.values, none]
      rfl
    next => cases hcause

/-- The second stage fails in its settings, in reading, or at a token that is left over. -/
theorem parse_error_cases (h : s.parse options tokens = .error e) :
    s.settings .parser StageRecord.parserSettings = .error e ∨
      ∃ p cause, s.settings .parser StageRecord.parserSettings = .ok p ∧ e = .parsing cause ∧
        ((GovernedExpr.parse p tokens.tokens).outcome = .error cause ∨
          options.strict = true ∧ cause.IsLeftOver) := by
  rw [parse_eq] at h
  obtain h | ⟨p, hp, h⟩ := bind_eq_error_iff.1 h
  · exact .inl h
  · obtain h | ⟨tree, -, h⟩ := bind_eq_error_iff.1 h
    · obtain ⟨cause, hcause, rfl⟩ := mapError_eq_error_iff.1 h
      refine .inr ⟨p, cause, hp, rfl, ?_⟩
      cases strict : options.strict with
      | false =>
        rw [strict] at hcause
        exact .inl hcause
      | true =>
        rw [strict] at hcause
        exact (parseComplete_eq_error hcause).imp_right fun left => ⟨rfl, left⟩
    · cases h

theorem parse_error_holds (h : s.parse options tokens = .error e) :
    e.HoldsIn s options source := by
  obtain h | ⟨p, cause, hp, rfl, h | ⟨strict, leftOver⟩⟩ := parse_error_cases h
  · exact settings_error_holds (fun r => explains_parserSettings) h
  · obtain ⟨reject, missing⟩ := missingOperand_of_parse h
    cases cause with
    | missingOperand operator position => exact ⟨p, hp, reject⟩
    | expectedOperand found kind position => exact ⟨p, hp, reject⟩
    | unexpectedToken value kind position => exact absurd trivial missing
  · cases cause with
    | missingOperand operator position => exact leftOver.elim
    | expectedOperand found kind position => exact leftOver.elim
    | unexpectedToken value kind position => exact strict

theorem measure_error_holds (h : s.measure tree = .error e) :
    e.HoldsIn s options source := by
  obtain h | ⟨passes, -, h⟩ := bind_eq_error_iff.1 h
  · exact settings_error_holds (fun r => explains_passes) h
  · cases h

theorem write_error_holds (h : s.write options tree = .error e) :
    e.HoldsIn s options source := by
  obtain h | ⟨output, houtput, h⟩ := bind_eq_error_iff.1 h
  · exact settings_error_holds (fun r => explains_outputSettings) h
  · obtain h | ⟨rendered, -, h⟩ := bind_eq_error_iff.1 h
    · obtain ⟨cause, hcause, rfl⟩ := mapError_eq_error_iff.1 h
      rw [FormatRegistry.render_ofSettings] at hcause
      -- the formats that are there never fail
      split_ifs at hcause with outline json
      cases hcause
      refine ⟨output, houtput, rfl, ?_⟩
      rw [FormatRegistry.get?_ofSettings, if_neg outline, if_neg json]
    · cases h

end GovernanceStore

/-- **What the error of a run says is so**, in every store.  A stage that is not
loaded has no record, a section that is missing has no entry, a key that is missing has no value, and
a value that is reported is the one of its key.  Operands are only missed where they are to be
reported, and tokens left over only where all have to be read.  Records in the wrong place, unknown
numbers of stages, documents, files and trees that cannot be written never come up. -/
theorem execute_error_holds {s : GovernanceStore} {options : RunOptions} {source : String}
    {e : ExecutionError} (h : s.execute options source = .error e) :
    e.HoldsIn s options source := by
  obtain h | ⟨tokens, -, h | ⟨tree, consumed, -, h | ⟨report, -, h⟩⟩⟩ :=
    GovernanceStore.execute_eq_error_iff_or.1 h
  · exact GovernanceStore.tokenize_error_holds h
  · exact GovernanceStore.parse_error_holds h
  · exact GovernanceStore.measure_error_holds h
  · exact GovernanceStore.write_error_holds h

/-- A level that is no number is reported as it is found. -/
theorem execute_error_holds_high :
    let s := GovernanceStore.sumsFirst.insert
      ((builtinRecord .parser).add precedenceTable "PLUS_PRECEDENCE" "high")
    s.execute ⟨none, false⟩ "a + b" =
        .error (.governance (.invalidValue .parser precedenceTable "PLUS_PRECEDENCE" "high"
          .level)) ∧
      s.get? .parser precedenceTable "PLUS_PRECEDENCE" = some "high" := by
  intro s
  have tokenized : s.tokenize "a + b" = .ok (.ofList [⟨.identifier, "a", 1, 1, 100⟩,
      ⟨.operator, "+", 1, 2, 80⟩, ⟨.identifier, "b", 1, 3, 100⟩]) :=
    toOption_eq_some_iff.1 (by decide +kernel)
  have failed : s.execute ⟨none, false⟩ "a + b" = .error (.governance (.invalidValue .parser
      precedenceTable "PLUS_PRECEDENCE" "high" .level)) :=
    GovernanceStore.execute_eq_error_iff_or.2 (.inr ⟨_, tokenized, .inl rfl⟩)
  exact ⟨failed, execute_error_holds failed⟩

end GovernedExpr
