import GovernedExpr.Governance.Store
import GovernedExpr.Governance.Settings
import GovernedExpr.Proofs.Outcomes
import GovernedExpr.Proofs.Parsing.Cursor

/-!
# Levels that governance admits

The levels of a table that is derived from a record are checked one by one, so that the number
behind each of them is a byte.  Reading then comes to the same with bytes, which wrap around, and
with natural numbers, which do not.

* `PrecedenceTable.IsAdmitted` says that all levels of a table are such levels;
* `StageRecord.isAdmitted_setLevel` says that a key keeps a table so, and
  `StageRecord.isAdmitted_levels` that all keys of a record do;
* `parse_of_parserSettings` compares parsing with bytes and with natural numbers.
-/

namespace GovernedExpr

open Text LevelNumber

variable {table table' : PrecedenceTable} {r : StageRecord} {p : ParserSettings}
  {symbol key value : String} {level : Nat}

namespace PrecedenceTable

/-- All levels of the table are levels that an operator may have. -/
def IsAdmitted (table : PrecedenceTable) : Prop :=
  table.All fun level => 1 ≤ level ∧ level ≤ 254

theorem IsAdmitted.all_le (h : table.IsAdmitted) : table.All (· ≤ 254) :=
  All.mono h fun _ bounds => bounds.2

end PrecedenceTable

namespace StageRecord

/-- A key sets no level that is not admitted. -/
theorem isAdmitted_setLevel (h : r.setLevel table key value = .ok table')
    (admitted : table.IsAdmitted) : table'.IsAdmitted := by
  unfold setLevel at h
  split at h
  · cases h
    exact admitted
  · split at h
    · cases h
    · split at h
      next level read =>
        cases h
        obtain ⟨low, high⟩ := Bounds.bounded_of_read? read
        simp only [levelBounds] at low high
        exact PrecedenceTable.All.insert admitted _ (by omega)
      next => cases h

/-- The table of a record only holds levels that are admitted. -/
theorem isAdmitted_levels (h : r.levels = .ok table) : table.IsAdmitted :=
  foldlM_eq_ok_induction h PrecedenceTable.all_empty
    fun _ _ _ admitted set => isAdmitted_setLevel set admitted

theorem isAdmitted_of_parserSettings (h : r.parserSettings = .ok p) : p.levels.IsAdmitted := by
  obtain ⟨-, -, h⟩ := bind_eq_ok_iff.1 h
  obtain ⟨-, -, h⟩ := bind_eq_ok_iff.1 h
  obtain ⟨table, levels, h⟩ := bind_eq_ok_iff.1 h
  obtain ⟨policy, -, h⟩ := bind_eq_ok_iff.1 h
  cases h
  exact isAdmitted_levels levels

end StageRecord

/-- **Levels that governance admits do not overflow.**  All levels of a table that is derived from a
record lie from 1 to 254, so the byte behind each of them is the number behind it, and on every
stream a parser comes to the same outcome, with the same cursor, whether it counts levels in bytes
or in natural numbers. -/
theorem parse_of_parserSettings (h : r.parserSettings = .ok p) (s : TokenStream) :
    (∀ symbol, ∀ level ∈ p.levels.level? symbol, (1 ≤ level ∧ level ≤ 254) ∧
      (next (ofLevel level) : UInt8).toNat = level + 1) ∧
    (Parser.new p s).parseWith UInt8 = (Parser.new p s).parseWith Nat ∧
    Parser.parsed (Parser.new p s).parse = parse p s.tokens ∧
    Parser.parsed (Parser.new p s).parseComplete = parseComplete p s.tokens := by
  have admitted := StageRecord.isAdmitted_of_parserSettings h
  have bytes := admitted.all_le
  refine ⟨fun symbol level hl => ?_, ?_, ?_, ?_⟩
  · exact ⟨admitted symbol level hl, toNat_next_ofLevel (bytes symbol level hl)⟩
  · exact Parser.parseWith_eq_parseWith (counts_byte bytes) (counts_nat p.levels)
  · exact Parser.parsed_parse bytes
  · exact Parser.parsed_parseComplete bytes

/-- The lowest and the highest level, one of them written over another one, in front of an operator
that dangles. -/
theorem parse_of_parserSettings_extreme :
    let r := (((builtinRecord .parser).add precedenceTable "PLUS_PRECEDENCE" " +254 ").add
      precedenceTable "MULTIPLY_PRECEDENCE" "001").add parserOptions "missing_operand" "Truncate"
    let p : ParserSettings :=
      ⟨(((PrecedenceTable.empty.insert "*" 1).insert "+" 254).insert "-" 10).insert "/" 20,
        .truncate⟩
    let s : TokenStream := .ofList [⟨.identifier, "a", 1, 1, 0⟩, ⟨.operator, "*", 1, 2, 0⟩,
      ⟨.identifier, "b", 1, 3, 0⟩, ⟨.operator, "+", 1, 4, 0⟩, ⟨.number, "2", 1, 5, 0⟩,
      ⟨.operator, "-", 1, 6, 0⟩]
    r.parserSettings = .ok p ∧
      ((∀ symbol, ∀ level ∈ p.levels.level? symbol, (1 ≤ level ∧ level ≤ 254) ∧
        (next (ofLevel level) : UInt8).toNat = level + 1) ∧
      (Parser.new p s).parseWith UInt8 = (Parser.new p s).parseWith Nat ∧
      Parser.parsed (Parser.new p s).parse = parse p s.tokens ∧
      Parser.parsed (Parser.new p s).parseComplete = parseComplete p s.tokens) := by
  intro r p s
  have h : r.parserSettings = .ok p := toOption_eq_some_iff.1 (by decide +kernel)
  exact ⟨h, parse_of_parserSettings h s⟩

end GovernedExpr
