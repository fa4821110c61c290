import Mathlib.Data.Finset.Card
import Mathlib.Data.Finset.Dedup
import Mathlib.Logic.Relation
import GovernedExpr.Proofs.Parsing.Cursor

/-!
# How deep readings nest

The right side of an operator is read inside of the reading that has taken the operator, and each
reading goes round a loop.  The minimum level grows from each reading to the one inside of it, and
the cursor moves forward in each round.  So limits on both, which only depend on the table and on the
number of tokens, are never met.

* `PrecedenceTable.levelSet` are the levels of a table, and `PrecedenceTable.room` counts those that
  are not below a minimum level;
* `Parser.Round` is a round of the loop after which the loop goes on, `Parser.Nests` says that one
  reading makes another one, and `Parser.length_le_room` how many may be under way inside of each
  other;
* `Parser.expressionLimited` reads with limits on both, and `Parser.expressionLimited_eq` says which
  limits suffice;
* `parse_limited` puts this together for parsing.
-/

namespace GovernedExpr

open LevelNumber

/-! ### The levels of a table -/

namespace PrecedenceTable

/-- The levels that operators of the table have. -/
def levelSet (table : PrecedenceTable) : Finset Nat :=
  (table.entries.filterMap fun e => table.level? e.1).toFinset

/-- The number of levels of the table that are not below a minimum level. -/
def room (table : PrecedenceTable) (minLevel : Nat) : Nat :=
  (table.levelSet.filter (minLevel ≤ ·)).card

variable {table : PrecedenceTable} {symbol : String} {level minLevel : Nat}

theorem mem_levelSet : level ∈ table.levelSet ↔ ∃ symbol, table.level? symbol = some level := by
  rw [levelSet, List.mem_toFinset, List.mem_filterMap]
  constructor
  · rintro ⟨e, -, found⟩
    exact ⟨e.1, found⟩
  · rintro ⟨symbol, found⟩
    obtain ⟨before, after, entries, -⟩ := List.lookup_eq_some_iff.1 found
    have member : (symbol, level) ∈ table.entries := by
      rw [entries]
      exact List.mem_append_right before List.mem_cons_self
    exact ⟨(symbol, level), member, found⟩

theorem room_le (table : PrecedenceTable) (minLevel : Nat) :
    table.room minLevel ≤ table.levelSet.card :=
  Finset.card_le_card (Finset.filter_subset _ _)

/-- Behind an operator that binds there is less room, since its own level is left out. -/
theorem room_lt (found : table.level? symbol = some level) (binds : minLevel ≤ level) :
    table.room (level + 1) < table.room minLevel := by
  refine Finset.card_lt_card (Finset.ssubset_iff_subset_ne.2 ⟨fun l hl => ?_, fun same => ?_⟩)
  · obtain ⟨member, above⟩ := Finset.mem_filter.1 hl
    exact Finset.mem_filter.2 ⟨member, by omega⟩
  · have member := Finset.mem_filter.2 ⟨mem_levelSet.2 ⟨symbol, found⟩, binds⟩
    rw [← same] at member
    exact Nat.not_succ_le_self level (Finset.mem_filter.1 member).2

end PrecedenceTable

namespace Parser

variable {α : Type} [LevelNumber α] {p : ParserSettings} {minLevel : α} {m level : Nat}
  {left : Tree} {operator : Token} {r s : Parser}

/-- An operator that binds in a loop has a level of the table that is not below the minimum level. -/
theorem level_of_binds (settings : r.settings = p) (stands : StandsFor p.levels minLevel m)
    (found : r.operator? = some (operator, level)) (binds : isBelow (ofLevel level) minLevel = false) :
    p.levels.levelOf? operator = some level ∧ p.levels.level? operator.value = some level ∧
      m ≤ level := by
  obtain ⟨-, -, configured⟩ := operator?_eq_some_iff.1 found
  rw [settings] at configured
  obtain ⟨-, hlevel⟩ := PrecedenceTable.levelOf?_eq_some_iff.1 configured
  rw [stands _ _ hlevel, decide_eq_false_iff_not, Nat.not_lt] at binds
  exact ⟨configured, hlevel, binds⟩

/-! ### Rounds of the loop -/

/-- A round after which the loop of a reading goes on: an operator that binds is under the cursor, and
there is an expression behind it. -/
inductive Round (minLevel : α) : Tree × Parser → Tree × Parser → Prop
  | mk {left right : Tree} {operator : Token} {level : Nat} {r s : Parser}
      (found : r.operator? = some (operator, level))
      (binds : isBelow (ofLevel level) minLevel = false)
      (read : r.advance.expression (next (ofLevel level) : α) = (.ok (some right), s)) :
      Round minLevel (left, r) (.binary operator.value left right, s)

variable {x y : Tree × Parser}

/-- Behind a round the loop does what is left of it to do. -/
theorem Round.extend_eq (h : Round minLevel x y) :
    x.2.extend minLevel x.1 = y.2.extend minLevel y.1 := by
  obtain ⟨found, binds, read⟩ := h
  rw [Parser.extend_eq, found]
  simp [binds, read]

theorem Round.moves (h : Round minLevel x y) : x.2.Moves y.2 := by
  cases h with
  | @mk left right operator level r s found binds read =>
    have moves := moves_expression (next (ofLevel level) : α) r.advance
    rw [read] at moves
    exact r.moves_advance.trans moves

/-- **A round moves the cursor forward**, even if the reading inside of it has moved the cursor back to
an operator without an operand. -/
theorem Round.position_lt (h : Round minLevel x y) : x.2.position < y.2.position := by
  cases h with
  | @mk left right operator level r s found binds read =>
    have moves := moves_expression (next (ofLevel level) : α) r.advance
    rw [read, advance_of_lt (lt_of_operator? found)] at moves
    exact moves.forward

theorem moves_of_rounds (h : Relation.ReflTransGen (Round minLevel) x y) : x.2.Moves y.2 := by
  induction h with
  | refl => exact .refl _
  | tail _ round ih => exact ih.trans round.moves

/-! ### Readings inside of readings -/

/-- A reading of an expression: its minimum level, and the parser that it is made with. -/
structure Reading (α : Type) where
  minLevel : α
  parser : Parser

/-- One reading makes another one: behind its operand and some rounds of its loop an operator binds, and
the right side of the operator is read. -/
inductive Nests : Reading α → Reading α → Prop
  | mk {minLevel : α} {leaf left : Tree} {operator : Token} {level : Nat} {r s : Parser}
      (operand : r.operand? = some leaf)
      (rounds : Relation.ReflTransGen (Round minLevel) (leaf, r.advance) (left, s))
      (found : s.operator? = some (operator, level))
      (binds : isBelow (ofLevel level) minLevel = false) :
      Nests ⟨minLevel, r⟩ ⟨next (ofLevel level), s.advance⟩

variable {outer inner first : Reading UInt8} {rest : List (Reading UInt8)} {table : PrecedenceTable}

/-- The reading inside has the same settings, and its minimum level is behind a level of the table that
binds outside. -/
theorem Nests.exists_level (h : Nests outer inner)
    (bytes : outer.parser.settings.levels.All (· ≤ 254)) :
    inner.parser.settings = outer.parser.settings ∧
    ∃ symbol level, outer.parser.settings.levels.level? symbol = some level ∧
      outer.minLevel.toNat ≤ level ∧ inner.minLevel.toNat = level + 1 := by
  obtain ⟨-, rounds, found, binds⟩ := h
  have settings := ((moves_advance _).trans (moves_of_rounds rounds)).settings_eq
  obtain ⟨-, hlevel, above⟩ := level_of_binds settings (standsFor_byte bytes _) found binds
  exact ⟨(moves_advance _).settings_eq.trans settings, _, _, hlevel, above,
    toNat_next_ofLevel (bytes _ _ hlevel)⟩

/-- **The minimum level grows from each reading to the one inside of it.** -/
theorem Nests.lt (h : Nests outer inner) (bytes : outer.parser.settings.levels.All (· ≤ 254)) :
    outer.minLevel < inner.minLevel := by
  obtain ⟨-, _, level, -, above, next⟩ := h.exists_level bytes
  exact UInt8.lt_iff_toNat_lt.2 (by omega)

/-- So it grows along readings that are all inside of each other. -/
theorem pairwise_of_isChain (chain : (first :: rest).IsChain Nests)
    (bytes : first.parser.settings.levels.All (· ≤ 254)) :
    ((first :: rest).map Reading.minLevel).Pairwise (· < ·) := by
  rw [← List.isChain_iff_pairwise]
  induction rest generalizing first with
  | nil => exact .singleton _
  | cons second rest ih =>
    obtain ⟨nests, chain⟩ := List.isChain_cons_cons.1 chain
    obtain ⟨settings, -⟩ := nests.exists_level bytes
    exact List.isChain_cons_cons.2 ⟨nests.lt bytes, ih chain (settings ▸ bytes)⟩

/-- **Readings inside of each other are no more than there are levels for them.** -/
theorem length_le_room (chain : (first :: rest).IsChain Nests)
    (bytes : first.parser.settings.levels.All (· ≤ 254)) :
    rest.length ≤ first.parser.settings.levels.room first.minLevel.toNat := by
  induction rest generalizing first with
  | nil => exact Nat.zero_le _
  | cons second rest ih =>
    obtain ⟨nests, chain⟩ := List.isChain_cons_cons.1 chain
    obtain ⟨settings, _, level, hlevel, above, next⟩ := nests.exists_level bytes
    have inner := ih chain (settings ▸ bytes)
    have less := PrecedenceTable.room_lt hlevel above
    rw [settings, next] at inner
    rw [List.length_cons]
    omega

/-! ### Reading with limits -/

/-- Continue a left operand in so many rounds at most, the last one included, given how right sides are
read.  There is no answer where the rounds do not suffice. -/
def extendLimited (rightSide : α → Parser → Option (Except ParseError (Option Tree) × Parser))
    (minLevel : α) : (rounds : Nat) → Tree → Parser → Option (Except ParseError Tree × Parser)
  | 0, _, _ => none
  | rounds + 1, left, r =>
    match r.operator? with
    | none => some (.ok left, r)
    | some (operator, level) =>
      if isBelow (ofLevel level) minLevel then some (.ok left, r)
      else
        match rightSide (next (ofLevel level)) r.advance with
        | none => none
        | some (.error e, s) => some (.error e, s)
        | some (.ok none, s) => some (s.dangling left operator r.position)
        | some (.ok (some right), s) =>
          extendLimited rightSide minLevel rounds (.binary operator.value left right) s

/-- Read an expression with so many readings inside of each other at most, and so many rounds of each of
their loops. -/
def expressionLimited (rounds : Nat) :
    (depth : Nat) → α → Parser → Option (Except ParseError (Option Tree) × Parser)
  | 0, _, _ => none
  | depth + 1, minLevel, r =>
    match r.operand? with
    | none => some (.ok none, r)
    | some leaf =>
      (extendLimited (expressionLimited rounds depth) minLevel rounds leaf r.advance).map
        fun read => (read.1.map some, read.2)

/-- Read one expression from the start of the stream, within such limits. -/
def parseLimited (rounds depth : Nat) (r : Parser) :
    Option (Except ParseError (Option Tree) × Parser) :=
  match r.restart.current? with
  | none => some (.ok none, r.restart)
  | some first =>
    match r.restart.expressionLimited rounds depth (ofLevel 0 : UInt8) with
    | none => none
    | some (.ok none, s) =>
      match s.settings.missingOperand with
      | .reject => some (.error (.expectedOperand first.value first.kind first.column), s)
      | .truncate => some (.ok none, s)
    | some read => some read

/-! ### Limits that suffice -/

/-- The loop is done with one round for each token that is left and one more, where right sides are read
as they are without limits. -/
theorem extendLimited_eq {rightSide : α → Parser → Option (Except ParseError (Option Tree) × Parser)}
    (reads : ∀ operator level s, p.levels.levelOf? operator = some level → m ≤ level →
      s.settings = p → s.tokens.length = r.tokens.length →
      rightSide (next (ofLevel level)) s = some (s.expression (next (ofLevel level) : α)))
    (stands : StandsFor p.levels minLevel m) (settings : r.settings = p) {rounds : Nat}
    (long : r.tokens.length - r.position < rounds) (left : Tree) :
    extendLimited rightSide minLevel rounds left r = some (r.extend minLevel left) := by
  induction rounds generalizing left r with
  | zero => omega
  | succ rounds ih =>
    rw [extendLimited, extend_eq]
    cases found : r.operator? with
    | none => rfl
    | some taken =>
      obtain ⟨operator, level⟩ := taken
      cases binds : isBelow (ofLevel level) minLevel with
      | true => simp only [binds, if_true]
      | false =>
        obtain ⟨configured, -, above⟩ := level_of_binds settings stands found binds
        have advance := r.moves_advance
        have moves := advance.trans (moves_expression (next (ofLevel level) : α) r.advance)
        have read := reads operator level r.advance configured above
          (advance.settings_eq.trans settings) (congrArg _ advance.tokens_eq)
        simp only [binds, Bool.false_eq_true, if_false, read]
        rcases hright : r.advance.expression (next (ofLevel level) : α) with ⟨_ | _ | right, s⟩
        · rfl
        · rfl
        · -- the loop goes on further to the right, so the rounds that are left suffice for it
          rw [hright] at moves
          have round : Round minLevel (left, r) (.binary operator.value left right, s) :=
            .mk found binds hright
          have forward : r.position < s.position := round.position_lt
          have length : s.tokens.length = r.tokens.length := congrArg _ moves.tokens_eq
          have inside := lt_of_operator? found
          have less : s.tokens.length - s.position < rounds := by omega
          refine ih (fun operator level t configured above settings same => ?_)
            (moves.settings_eq.trans settings) less _
          exact reads operator level t configured above settings (same.trans length)

/-- **No limit is met** by a reading with one reading inside of each other for each level that there is
room for, and one more, and with more rounds of a loop than there are tokens. -/
theorem expressionLimited_eq (counts : Counts α p.levels) (stands : StandsFor p.levels minLevel m)
    (settings : r.settings = p) {rounds depth : Nat} (deep : p.levels.room m < depth)
    (long : r.tokens.length < rounds) :
    r.expressionLimited rounds depth minLevel = some (r.expression minLevel) := by
  induction depth generalizing minLevel m r with
  | zero => omega
  | succ depth ih =>
    rw [expressionLimited, expression]
    cases r.operand? with
    | none => rfl
    | some leaf =>
      have advance := r.moves_advance
      have length : r.advance.tokens.length = r.tokens.length := congrArg _ advance.tokens_eq
      have loop : extendLimited (expressionLimited rounds depth) minLevel rounds leaf r.advance =
          some (r.advance.extend minLevel leaf) := by
        refine extendLimited_eq (fun operator level s configured above settings same => ?_) stands
          (advance.settings_eq.trans settings) (by omega) leaf
        -- a right side has less room
        obtain ⟨-, hlevel⟩ := PrecedenceTable.levelOf?_eq_some_iff.1 configured
        have less := PrecedenceTable.room_lt hlevel above
        exact ih (counts.standsFor_next configured) settings (by omega) (by omega)
      simp only [loop]
      rfl

theorem parseLimited_eq (bytes : r.settings.levels.All (· ≤ 254)) {rounds depth : Nat}
    (deep : r.settings.levels.levelSet.card < depth) (long : r.tokens.length < rounds) :
    r.parseLimited rounds depth = some r.parse := by
  have counts := counts_byte bytes
  have room : r.settings.levels.room 0 < depth :=
    Nat.lt_of_le_of_lt (r.settings.levels.room_le 0) deep
  have settings : r.restart.settings = r.settings := rfl
  have read : r.restart.expressionLimited rounds depth (ofLevel 0 : UInt8) =
      some (r.restart.expression (ofLevel 0)) :=
    expressionLimited_eq counts counts.least settings room long
  rw [parseLimited, parse, parseWith]
  cases r.restart.current? with
  | none => rfl
  | some first =>
    simp only [read]
    rcases r.restart.expression (ofLevel 0 : UInt8) with ⟨_ | _ | root, s⟩
    · rfl
    · cases hp : s.settings.missingOperand <;> simp only [hp]
    · rfl

end Parser

/-- **Readings nest one deeper than the table has levels** at most, whatever the tokens are.  The
minimum level grows from each reading to the one inside of it.  A round after which a loop goes on ends
with the cursor further to the right, although the cursor is moved back where an operand is missing.  So
within such limits on the depth, and on the rounds of each loop, parsing always has an answer; it is the
one without limits, and leaves the same parser. -/
theorem parse_limited {table : PrecedenceTable} (bytes : table.All (· ≤ 254)) (policy : MissingOperand)
    (s : TokenStream) :
    (∀ (first : Parser.Reading UInt8) (rest : List (Parser.Reading UInt8)),
      first.parser.settings.levels = table → (first :: rest).IsChain Parser.Nests →
        ((first :: rest).map Parser.Reading.minLevel).Pairwise (· < ·) ∧
        (first :: rest).length ≤ table.levelSet.card + 1) ∧
    (∀ (minLevel : UInt8) (x y : Tree × Parser), Parser.Round minLevel x y →
      x.2.position < y.2.position ∧ x.2.extend minLevel x.1 = y.2.extend minLevel y.1) ∧
    (Parser.new ⟨table, policy⟩ s).parseLimited (s.tokens.length + 1) (table.levelSet.card + 1) =
      some (Parser.new ⟨table, policy⟩ s).parse := by
  refine ⟨fun first rest same chain => ?_, fun _ _ _ round => ⟨round.position_lt, round.extend_eq⟩, ?_⟩
  · subst same
    have length := Parser.length_le_room chain bytes
    have room := first.parser.settings.levels.room_le first.minLevel.toNat
    exact ⟨Parser.pairwise_of_isChain chain bytes, by rw [List.length_cons]; omega⟩
  · exact Parser.parseLimited_eq bytes (Nat.lt_succ_self _) (Nat.lt_succ_self _)

/-- With three levels four readings may be inside of each other, and three are too few. -/
theorem parse_limited_deep :
    let table := ((PrecedenceTable.empty.insert "+" 0).insert "*" 20).insert "^" 254
    let s : TokenStream := .ofList [⟨.identifier, "a", 1, 0, 0⟩, ⟨.operator, "+", 1, 0, 0⟩,
      ⟨.identifier, "b", 1, 0, 0⟩, ⟨.operator, "*", 1, 0, 0⟩, ⟨.identifier, "c", 1, 0, 0⟩,
      ⟨.operator, "^", 1, 0, 0⟩, ⟨.unknown, "?", 1, 0, 0⟩]
    let r := Parser.new ⟨table, .truncate⟩ s
    let outermost : Parser.Reading UInt8 := ⟨0, r⟩
    let others : List (Parser.Reading UInt8) :=
      [⟨1, { r with position := 2 }⟩, ⟨21, { r with position := 4 }⟩, ⟨255, { r with position := 6 }⟩]
    table.All (· ≤ 254) ∧ table.levelSet.card = 3 ∧
      ((outermost :: others).IsChain Parser.Nests ∧
        ((outermost :: others).map Parser.Reading.minLevel).Pairwise (· < ·) ∧
        (outermost :: others).length ≤ table.levelSet.card + 1) ∧
      r.parseLimited 8 4 = some r.parse ∧ r.parseLimited 8 3 = none := by
  intro table s r outermost others
  have bytes : table.All (· ≤ 254) :=
    ((PrecedenceTable.all_empty.insert _ (by decide)).insert _ (by decide)).insert _ (by decide)
  have three : table.levelSet.card = 3 := by decide
  have chain : (outermost :: others).IsChain Parser.Nests := by
    have a : r.operand? = some (.identifier "a") := by decide
    have b : { r with position := 2 }.operand? = some (.identifier "b") := by decide
    have c : { r with position := 4 }.operand? = some (.identifier "c") := by decide
    have sum : r.advance.operator? = some (⟨.operator, "+", 1, 2, 0⟩, 0) := by decide
    have product : { r with position := 2 }.advance.operator? =
      some (⟨.operator, "*", 1, 4, 0⟩, 20) := by decide
    have power : { r with position := 4 }.advance.operator? =
      some (⟨.operator, "^", 1, 6, 0⟩, 254) := by decide
    exact .cons_cons (.mk a .refl sum rfl) (.cons_cons (.mk b .refl product rfl)
      (.cons_cons (.mk c .refl power rfl) (.singleton _)))
  have limited := parse_limited bytes .truncate s
  refine ⟨bytes, three, ⟨chain, limited.1 outermost others rfl chain⟩, ?_, by decide +kernel⟩
  have reads := limited.2.2
  rwa [three] at reads

end GovernedExpr
