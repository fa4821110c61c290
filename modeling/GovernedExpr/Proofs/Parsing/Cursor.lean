import GovernedExpr.Parsing.Cursor
import GovernedExpr.Proofs.Parsing.Rules

/-!
# Climbing with a cursor

The loop of a `Parser` works on a stream in place, with a flag for an operand that was missing and
with levels as numbers of some type.  It does what the loop on the list of unread tokens does.

* `Parser.extend_eq` is the equation of the loop of a parser;
* `Parser.inFrontOf` is a parser in front of some last tokens of its stream, and `Climb.leave` the
  parser that a climb leaves, with its outcome;
* `LevelNumber.Counts` says that numbers stand for the levels of a table, as far as reading compares
  them;
* `Climbs.extend_eq` takes a climb along with the cursor; `Parser.parsed_parseWith` says that a
  parser gives the outcome and the cursor of `parse`, and `Parser.parseWith_eq_parseWith` that it
  does not matter which numbers count the levels.
-/

namespace GovernedExpr

open LevelNumber

variable {α : Type} [LevelNumber α] {p : ParserSettings} {minLevel : α} {m level : Nat}
  {left leaf : Tree} {operator first : Token} {all tokens rest : List Token} {c : Climb}

namespace Parser

/-! ### The equation of the loop -/

/-- One round of the loop: the operator under the cursor, and the expression behind it. -/
theorem extend_eq (minLevel : α) (left : Tree) (r : Parser) :
    r.extend minLevel left =
      match r.operator? with
      | none => (.ok left, r)
      | some (operator, level) =>
        if isBelow (ofLevel level) minLevel then (.ok left, r)
        else
          match r.advance.expression (next (ofLevel level) : α) with
          | (.error e, s) => (.error e, s)
          | (.ok none, s) => s.dangling left operator r.position
          | (.ok (some right), s) => s.extend minLevel (.binary operator.value left right) := by
  rw [extend, extendWithin]
  split
  · simp [*]
  · rename_i operator level found
    simp only [found]
    split
    · rfl
    · unfold expression
      split
      · simp [*]
      · rename_i leaf operand
        simp only [operand, extend]
        rcases extendWithin (next (ofLevel level) : α) leaf r.advance.advance with
          ⟨⟨_ | right, s⟩, h⟩ <;> rfl

/-! ### The cursor stays on the stream -/

theorem moves_extend (minLevel : α) (left : Tree) (r : Parser) :
    r.Moves (r.extend minLevel left).2 :=
  (extendWithin minLevel left r).2

theorem moves_expression (minLevel : α) (r : Parser) : r.Moves (r.expression minLevel).2 := by
  unfold expression
  split
  · exact .refl r
  · exact r.moves_advance.trans (r.advance.moves_extend minLevel _)

theorem moves_parseWith (α : Type) [LevelNumber α] (r : Parser) :
    r.restart.Moves (r.parseWith α).2 := by
  unfold parseWith
  split
  · exact .refl _
  · have moves := r.restart.moves_expression (ofLevel 0 : α)
    split
    next s read =>
      rw [read] at moves
      split <;> exact moves
    next => exact moves

theorem parseComplete_snd (r : Parser) : r.parseComplete.2 = r.parse.2 := by
  unfold parseComplete
  split
  next root s read => split <;> rw [read]
  next e s read => rw [read]

/-! ### A parser in front of some tokens -/

/-- The parser on a stream that has yet to read some last tokens of it. -/
def inFrontOf (p : ParserSettings) (all tokens : List Token) (halted : Bool) : Parser :=
  ⟨p, all, all.length - tokens.length, halted⟩

theorem current?_inFrontOf (within : tokens <:+ all) (halted : Bool) :
    (inFrontOf p all tokens halted).current? = tokens.head? := by
  obtain ⟨read, rfl⟩ := within
  rw [inFrontOf, current?, List.length_append, Nat.add_sub_cancel,
    List.getElem?_append_right (Nat.le_refl _), Nat.sub_self, List.head?_eq_getElem?]

theorem advance_inFrontOf (within : first :: rest <:+ all) (halted : Bool) :
    (inFrontOf p all (first :: rest) halted).advance = inFrontOf p all rest halted := by
  have length := within.length_le
  rw [List.length_cons] at length
  rw [advance_of_lt]
  · simp only [inFrontOf, List.length_cons, Parser.mk.injEq, true_and, and_true]
    omega
  · simp only [inFrontOf, List.length_cons]
    omega

theorem operator?_inFrontOf (within : tokens <:+ all) :
    (inFrontOf p all tokens false).operator? =
      tokens.head?.bind fun t => (p.levels.levelOf? t).map fun level => (t, level) := by
  rw [operator?, current?_inFrontOf within]
  rfl

/-- The expression in front of some tokens is that behind the first of them, if it is an operand. -/
theorem expression_inFrontOf_cons (within : first :: rest <:+ all)
    (operand : first.operand? = some leaf) (minLevel : α) (halted : Bool) :
    (inFrontOf p all (first :: rest) halted).expression minLevel =
      let read := (inFrontOf p all rest halted).extend minLevel leaf
      (read.1.map some, read.2) := by
  rw [expression, operand?, current?_inFrontOf within, advance_inFrontOf within]
  simp [operand]

theorem expression_inFrontOf_bare (within : tokens <:+ all) (bare : NoOperandFirst tokens)
    (minLevel : α) (halted : Bool) :
    (inFrontOf p all tokens halted).expression minLevel =
      (.ok none, inFrontOf p all tokens halted) := by
  rw [expression, operand?, current?_inFrontOf within]
  cases tokens with
  | nil => rfl
  | cons first rest => simp [bare first rfl]

end Parser

/-! ### Numbers that stand for levels -/

namespace PrecedenceTable

/-- All levels of the table have a property. -/
def All (table : PrecedenceTable) (P : Nat → Prop) : Prop :=
  ∀ symbol, ∀ level ∈ table.level? symbol, P level

variable {table : PrecedenceTable} {P Q : Nat → Prop}

theorem all_empty : empty.All P := by
  rintro _ _ ⟨⟩

theorem All.insert (h : table.All P) (symbol : String) (hl : P level) :
    (table.insert symbol level).All P := by
  intro s l found
  rw [level?_insert] at found
  split at found
  · cases found
    exact hl
  · exact h s l found

theorem All.mono (h : table.All P) (imp : ∀ level, P level → Q level) : table.All Q :=
  fun symbol level found => imp level (h symbol level found)

end PrecedenceTable

/-- A number and a minimum level let the same levels of the table bind. -/
def LevelNumber.StandsFor (table : PrecedenceTable) (number : α) (minLevel : Nat) : Prop :=
  table.All fun level => isBelow (ofLevel level) number = decide (level < minLevel)

/-- The numbers stand for the minimum levels that come up in reading with the table: the lowest,
and those behind the levels of the table. -/
structure LevelNumber.Counts (α : Type) [LevelNumber α] (table : PrecedenceTable) : Prop where
  least : StandsFor table (ofLevel 0 : α) 0
  next : table.All fun level => StandsFor table (next (ofLevel level) : α) (level + 1)

namespace LevelNumber

theorem Counts.standsFor_next {table : PrecedenceTable} (counts : Counts α table)
    (configured : table.levelOf? operator = some level) :
    StandsFor table (LevelNumber.next (ofLevel level) : α) (level + 1) :=
  counts.next _ _ (PrecedenceTable.levelOf?_eq_some_iff.1 configured).2

theorem counts_nat (table : PrecedenceTable) : Counts Nat table where
  least _ _ _ := rfl
  next _ _ _ _ _ _ := rfl

/-- The byte behind that of a level does not wrap around. -/
theorem toNat_next_ofLevel (h : level ≤ 254) :
    (next (ofLevel level) : UInt8).toNat = level + 1 := by
  simp only [next, ofLevel, UInt8.toNat_add, UInt8.toNat_ofNat', UInt8.toNat_one]
  omega

/-- Bytes compare as their numbers. -/
theorem standsFor_byte {table : PrecedenceTable} (h : table.All (· ≤ 254)) (b : UInt8) :
    StandsFor table b b.toNat := by
  intro symbol level hl
  have bound : level ≤ 254 := h symbol level hl
  have low : level % 2 ^ 8 = level := Nat.mod_eq_of_lt (by omega)
  simp only [isBelow, ofLevel, UInt8.lt_iff_toNat_lt, UInt8.toNat_ofNat', low]

/-- Bytes count the levels up to 254. -/
theorem counts_byte {table : PrecedenceTable} (h : table.All (· ≤ 254)) : Counts UInt8 table where
  least := standsFor_byte h (ofLevel 0)
  next symbol level hl := by
    have stands := standsFor_byte h (LevelNumber.next (ofLevel level))
    rwa [toNat_next_ofLevel (h symbol level hl)] at stands

end LevelNumber

/-! ### Climbing along -/

/-- The outcome of a climb, and the parser that it leaves on a stream. -/
def Climb.leave (p : ParserSettings) (all : List Token) : Climb → Except ParseError Tree × Parser
  | .tree t rest halted => (.ok t, .inFrontOf p all rest halted)
  | .missing operator rest =>
    (.error (.missingOperand operator.value operator.column), .inFrontOf p all rest false)

/-- An operand that is missing behind an operator of the stream. -/
theorem Climb.leave_dangling (p : ParserSettings) (all : List Token) (left : Tree)
    (operator : Token) (rest : List Token) :
    (p.dangling left operator rest).leave p all =
      (Parser.inFrontOf p all rest false).dangling left operator
        (Parser.inFrontOf p all (operator :: rest) false).position := by
  unfold ParserSettings.dangling Parser.dangling
  simp only [Parser.inFrontOf]
  cases p.missingOperand <;> rfl

/-- One round of the loop of a parser, at an operator that binds. -/
theorem Parser.extend_inFrontOf_cons (configured : p.levels.levelOf? operator = some level)
    (binds : m ≤ level) (stands : StandsFor p.levels minLevel m)
    (within : operator :: rest <:+ all) :
    (inFrontOf p all (operator :: rest) false).extend minLevel left =
      match (inFrontOf p all rest false).expression (next (ofLevel level) : α) with
      | (.error e, s) => (.error e, s)
      | (.ok none, s) =>
        s.dangling left operator (inFrontOf p all (operator :: rest) false).position
      | (.ok (some right), s) => s.extend minLevel (.binary operator.value left right) := by
  have high := stands _ level (PrecedenceTable.levelOf?_eq_some_iff.1 configured).2
  rw [extend_eq, operator?_inFrontOf within, advance_inFrontOf within]
  simp [configured, high, Nat.not_lt.2 binds]

/-- One round with an operand behind the operator: the right side is read from there on. -/
theorem Parser.extend_inFrontOf_cons_cons (configured : p.levels.levelOf? operator = some level)
    (binds : m ≤ level) (stands : StandsFor p.levels minLevel m)
    (operand : first.operand? = some leaf) (within : operator :: first :: rest <:+ all) :
    (inFrontOf p all (operator :: first :: rest) false).extend minLevel left =
      match (inFrontOf p all rest false).extend (next (ofLevel level) : α) leaf with
      | (.error e, s) => (.error e, s)
      | (.ok right, s) => s.extend minLevel (.binary operator.value left right) := by
  rw [extend_inFrontOf_cons configured binds stands within,
    expression_inFrontOf_cons ((List.suffix_cons _ _).trans within) operand]
  rcases (inFrontOf p all rest false).extend (next (ofLevel level) : α) leaf with ⟨_ | _, s⟩ <;> rfl

/-- **The cursor follows the climb**: in front of the tokens that a climb starts from, a parser
comes to the same tree or error, and stops in front of the tokens that the climb has left. -/
theorem Climbs.extend_eq (run : Climbs p m left tokens c) (counts : Counts α p.levels)
    (stands : StandsFor p.levels minLevel m) (within : tokens <:+ all) :
    (Parser.inFrontOf p all tokens false).extend minLevel left = c.leave p all := by
  induction run generalizing minLevel with
  | @stop _ _ tokens ends =>
    rw [Parser.extend_eq, Parser.operator?_inFrontOf within]
    cases tokens with
    | nil => rfl
    | cons operator rest =>
      cases configured : p.levels.levelOf? operator with
      | none => simp [configured, Climb.leave]
      | some level =>
        have low := stands _ level (PrecedenceTable.levelOf?_eq_some_iff.1 configured).2
        simp [configured, low, ends operator rfl level configured, Climb.leave]
  | dangling configured binds bare =>
    have behind := (List.suffix_cons _ _).trans within
    rw [Parser.extend_inFrontOf_cons configured binds stands within,
      Parser.expression_inFrontOf_bare behind bare, Climb.leave_dangling]
  | missing configured binds operand _ ih =>
    have tail := (List.suffix_append [_, _] _).trans within
    rw [Parser.extend_inFrontOf_cons_cons configured binds stands operand within,
      ih (counts.standsFor_next configured) tail]
    rfl
  | halted configured binds operand _ ih =>
    have tail := (List.suffix_append [_, _] _).trans within
    rw [Parser.extend_inFrontOf_cons_cons configured binds stands operand within,
      ih (counts.standsFor_next configured) tail]
    -- a parser that has halted takes no operator, so the loop ends here too
    rw [Climb.leave, Climb.leave]
    exact Parser.extend_eq _ _ _
  | fold configured binds operand right _ ih ihnext =>
    have tail := (List.suffix_append [_, _] _).trans within
    rw [Parser.extend_inFrontOf_cons_cons configured binds stands operand within,
      ih (counts.standsFor_next configured) tail]
    exact ihnext stands (right.suffix.trans tail)

namespace Parser

theorem expression_inFrontOf (counts : Counts α p.levels) (stands : StandsFor p.levels minLevel m)
    (within : tokens <:+ all) :
    (inFrontOf p all tokens false).expression minLevel =
      match GovernedExpr.expression p m tokens with
      | none => (.ok none, inFrontOf p all tokens false)
      | some c => ((c.leave p all).1.map some, (c.leave p all).2) := by
  cases tokens with
  | nil => exact expression_inFrontOf_bare within (by rintro _ ⟨⟩) minLevel false
  | cons first rest =>
    cases operand : first.operand? with
    | none =>
      have bare : NoOperandFirst (first :: rest) := by
        rintro _ ⟨⟩
        exact operand
      rw [expression_inFrontOf_bare within bare, expression_eq_none_iff.2 bare]
    | some leaf =>
      have run := climbs_climb p m leaf rest
      rw [expression_inFrontOf_cons within operand, expression_cons operand,
        run.extend_eq counts stands ((List.suffix_cons _ _).trans within)]

/-! ### Parsing with a cursor -/

variable {r : Parser}

theorem restart_eq (r : Parser) : r.restart = inFrontOf r.settings r.tokens r.tokens false := by
  simp [restart, inFrontOf]

theorem expression_restart (counts : Counts α r.settings.levels) :
    r.restart.expression (ofLevel 0 : α) =
      match GovernedExpr.expression r.settings 0 r.tokens with
      | none => (.ok none, r.restart)
      | some c => ((c.leave r.settings r.tokens).1.map some, (c.leave r.settings r.tokens).2) := by
  rw [restart_eq]
  exact expression_inFrontOf counts counts.least (List.suffix_refl _)

/-- **It does not matter which numbers count the levels.** -/
theorem parseWith_eq_parseWith {β : Type} [LevelNumber β] (h : Counts α r.settings.levels)
    (h' : Counts β r.settings.levels) : r.parseWith α = r.parseWith β := by
  rw [parseWith, parseWith, expression_restart h, expression_restart h']

/-- The outcome of reading with a parser, and the cursor that it leaves. -/
def parsed (read : Except ParseError (Option Tree) × Parser) : Parsed :=
  ⟨read.1, read.2.position⟩

/-- **A parser gives the outcome and the cursor of parsing its stream.** -/
theorem parsed_parseWith (counts : Counts α r.settings.levels) :
    parsed (r.parseWith α) = GovernedExpr.parse r.settings r.tokens := by
  have current := current?_inFrontOf (p := r.settings) (List.suffix_refl r.tokens) false
  rw [← restart_eq] at current
  rw [parseWith, current, expression_restart counts, GovernedExpr.parse.eq_def]
  cases r.tokens with
  | nil => rfl
  | cons first rest =>
    have settings : r.restart.settings = r.settings := rfl
    cases GovernedExpr.expression r.settings 0 (first :: rest) with
    | none =>
      simp only [List.head?_cons, settings]
      cases r.settings.missingOperand <;> rfl
    | some c => cases c <;> rfl

/-- The same with levels as bytes, which are not to wrap around. -/
theorem parsed_parse (h : r.settings.levels.All (· ≤ 254)) :
    parsed r.parse = GovernedExpr.parse r.settings r.tokens :=
  parsed_parseWith (counts_byte h)

/-- The same for reading a stream completely. -/
theorem parsed_parseComplete (h : r.settings.levels.All (· ≤ 254)) :
    parsed r.parseComplete = GovernedExpr.parseComplete r.settings r.tokens := by
  have same := (r.moves_parseWith UInt8).tokens_eq
  rw [parseComplete, GovernedExpr.parseComplete, ← parsed_parse h]
  rw [← parse] at same
  generalize r.parse = read at same
  obtain ⟨result, s⟩ := read
  cases result with
  | error e => rfl
  | ok root =>
    have current : s.current? = r.tokens[s.position]? := by
      rw [current?, same]
      rfl
    simp only [current, parsed]
    cases r.tokens[s.position]? <;> rfl

end Parser

end GovernedExpr
