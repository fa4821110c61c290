import GovernedExpr.Proofs.Parsing.Levelled

/-!
# How far parsing reads

However deep the loops are nested, together they read the longest alternation of operands and
operators of the table that the tokens start with.

* `PrecedenceTable.Alternates` says that tokens are an operand, followed by a number of operators
  of the table with an operand behind each;
* `PrecedenceTable.IsLongest` says that such a start of the tokens has no longer one beside it;
* `parse_of_isLongest` gives the outcome of parsing and the cursor by the token behind it;
* `parse_longest` gives them for all tokens: they are the same for all tables of the same
  symbols.
-/

namespace GovernedExpr

variable {p : ParserSettings} {table : PrecedenceTable} {minLevel level n k : Nat}
  {left leaf : Tree} {tokens run rest : List Token} {first operator : Token} {c : Climb}

/-- The token is an identifier or a number. -/
def Token.IsOperand (t : Token) : Prop :=
  t.kind = .identifier ∨ t.kind = .number

/-- The token is an operator of the table. -/
def PrecedenceTable.Configures (table : PrecedenceTable) (t : Token) : Prop :=
  t.kind = .operator ∧ (table.level? t.value).isSome

namespace PrecedenceTable

/-- So many operators of the table, with an operand behind each. -/
inductive Pairs (table : PrecedenceTable) : Nat → List Token → Prop
  | nil : Pairs table 0 []
  | cons {n : Nat} {operator operand : Token} {rest : List Token}
      (configured : table.Configures operator) (isOperand : operand.IsOperand)
      (pairs : Pairs table n rest) : Pairs table (n + 1) (operator :: operand :: rest)

/-- An operand, and behind it so many operators of the table with an operand behind each. -/
def Alternates (table : PrecedenceTable) (n : Nat) (tokens : List Token) : Prop :=
  ∃ first rest, tokens = first :: rest ∧ first.IsOperand ∧ table.Pairs n rest

/-- The longest alternation that the tokens start with has `n` operators. -/
structure IsLongest (table : PrecedenceTable) (n : Nat) (tokens : List Token) : Prop where
  alternates : table.Alternates n (tokens.take (2 * n + 1))
  longest : ∀ k run, run <+: tokens → table.Alternates k run → k ≤ n

/-- Two tables have the same symbols. -/
def SameSymbols (table other : PrecedenceTable) : Prop :=
  ∀ symbol, (table.level? symbol).isSome = (other.level? symbol).isSome

end PrecedenceTable

/-! ### Operands and operators -/

theorem Token.isOperand_iff {t : Token} : t.IsOperand ↔ ∃ leaf, t.operand? = some leaf := by
  unfold IsOperand operand?
  cases t.kind <;> simp

theorem Token.not_isOperand_iff {t : Token} : ¬ t.IsOperand ↔ t.operand? = none := by
  rw [isOperand_iff, ← Option.isSome_iff_exists, Option.not_isSome_iff_eq_none]

theorem PrecedenceTable.configures_iff {t : Token} :
    table.Configures t ↔ ∃ level, table.levelOf? t = some level := by
  simp only [Configures, levelOf?_eq_some_iff, Option.isSome_iff_exists, exists_and_left]

/-! ### Alternations -/

namespace PrecedenceTable

theorem Pairs.cons_of_eq (configured : table.levelOf? operator = some level)
    (operand : first.operand? = some leaf) (h : table.Pairs n run) :
    table.Pairs (n + 1) (operator :: first :: run) :=
  .cons (configures_iff.2 ⟨level, configured⟩) (Token.isOperand_iff.2 ⟨leaf, operand⟩) h

theorem Pairs.length (h : table.Pairs n run) : run.length = 2 * n := by
  induction h with
  | nil => rfl
  | cons _ _ _ ih => simp only [List.length_cons, ih]; omega

theorem Pairs.append {other : List Token} (h : table.Pairs n run) (h' : table.Pairs k other) :
    table.Pairs (n + k) (run ++ other) := by
  induction h with
  | nil => simpa using h'
  | @cons n _ _ _ configured isOperand _ ih =>
    rw [show n + 1 + k = n + k + 1 by omega]
    exact .cons configured isOperand ih

/-- No operator with an operand behind it stands first. -/
def Blocks (table : PrecedenceTable) (tokens : List Token) : Prop :=
  ∀ operator operand rest, tokens = operator :: operand :: rest → table.Configures operator →
    ¬ operand.IsOperand

/-- No start of the tokens has more pairs than one that is blocked. -/
theorem Pairs.le {other : List Token} (h : table.Pairs n run) (blocks : table.Blocks rest)
    (h' : table.Pairs k other) (start : other <+: run ++ rest) : k ≤ n := by
  induction h generalizing k other with
  | nil =>
    cases h' with
    | nil => exact Nat.le_refl 0
    | cons configured isOperand _ =>
      obtain ⟨after, rfl⟩ := start
      exact absurd isOperand (blocks _ _ _ rfl configured)
  | cons _ _ _ ih =>
    cases h' with
    | nil => exact Nat.zero_le _
    | cons _ _ pairs =>
      simp only [List.cons_append, List.cons_prefix_cons] at start
      exact Nat.succ_le_succ (ih pairs start.2.2)

theorem Dangles.blocks (h : table.Dangles rest) : table.Blocks rest := by
  rintro operator operand after rfl - isOperand
  obtain ⟨_, _, _, heq, -, bare⟩ := h
  cases heq
  exact Token.not_isOperand_iff.2 (bare _ rfl) isOperand

theorem Ends.not_configures (h : table.Ends 0 rest) :
    ∀ operator ∈ rest.head?, ¬ table.Configures operator := by
  intro operator hop configured
  obtain ⟨level, hl⟩ := configures_iff.1 configured
  exact Nat.not_lt_zero _ (h operator hop level hl)

theorem Ends.blocks (h : table.Ends 0 rest) : table.Blocks rest := by
  rintro operator operand after rfl configured -
  exact h.not_configures operator rfl configured

end PrecedenceTable

/-! ### What the loops read together -/

/-- The tokens behind the alternation that was read, a dangling operator included. -/
def Climb.unread : Climb → List Token
  | .tree _ rest _ => rest
  | .missing operator rest => operator :: rest

/-- However the loops are nested, they read pairs of an operator and an operand. -/
theorem Climbs.exists_pairs (h : Climbs p minLevel left tokens c) :
    ∃ n run, p.levels.Pairs n run ∧ tokens = run ++ c.unread := by
  induction h with
  | stop _ => exact ⟨0, [], .nil, rfl⟩
  | @dangling _ _ left operator rest _ _ _ =>
    refine ⟨0, [], .nil, ?_⟩
    obtain ⟨-, hd⟩ | ⟨-, hd⟩ := p.dangling_eq left operator rest <;> rw [hd] <;> rfl
  | missing configured _ operand _ ih | halted configured _ operand _ ih =>
    obtain ⟨n, run, pairs, rfl⟩ := ih
    exact ⟨n + 1, _ :: _ :: run, pairs.cons_of_eq configured operand, rfl⟩
  | fold configured _ operand _ _ ih ihnext =>
    obtain ⟨n, run, pairs, rfl⟩ := ih
    obtain ⟨k, next, nextPairs, hnext⟩ := ihnext
    refine ⟨n + 1 + k, (_ :: _ :: run) ++ next,
      (pairs.cons_of_eq configured operand).append nextPairs, ?_⟩
    rw [List.append_assoc, ← hnext]
    rfl

theorem Climb.Final.blocks (h : c.Final p 0) : p.levels.Blocks c.unread := by
  cases c with
  | missing operator rest => exact h.2.blocks
  | tree t rest halted =>
    cases halted with
    | false => exact PrecedenceTable.Ends.blocks h
    | true => exact h.2.blocks

/-- Behind an operand the loop reads the rest of the longest alternation. -/
theorem Climbs.isLongest (operand : first.operand? = some leaf) (h : Climbs p 0 leaf rest c) :
    ∃ n, p.levels.IsLongest n (first :: rest) ∧ rest.length = 2 * n + c.unread.length ∧
      (first :: rest)[2 * n + 1]? = c.unread.head? := by
  obtain ⟨n, run, pairs, rfl⟩ := h.exists_pairs
  have length := pairs.length
  refine ⟨n, ⟨⟨first, run, ?_, Token.isOperand_iff.2 ⟨leaf, operand⟩, pairs⟩, ?_⟩, ?_, ?_⟩
  · rw [List.take_succ_cons, ← length, List.take_left]
  · rintro k _ start ⟨first', run', rfl, -, pairs'⟩
    exact pairs.le h.final.blocks pairs' (List.cons_prefix_cons.1 start).2
  · rw [List.length_append, length]
  · rw [List.getElem?_cons_succ, ← length, List.getElem?_append_right (Nat.le_refl _),
      Nat.sub_self, List.head?_eq_getElem?]

theorem PrecedenceTable.IsLongest.unique (h : table.IsLongest n tokens)
    (h' : table.IsLongest k tokens) : n = k :=
  Nat.le_antisymm (h'.longest _ _ (List.take_prefix _ _) h.alternates)
    (h.longest _ _ (List.take_prefix _ _) h'.alternates)

theorem PrecedenceTable.IsLongest.exists_cons (h : table.IsLongest n tokens) :
    ∃ first rest, tokens = first :: rest ∧ first.IsOperand := by
  obtain ⟨first, _, htake, isOperand, -⟩ := h.alternates
  cases tokens with
  | nil => cases htake
  | cons _ rest =>
    cases htake
    exact ⟨first, rest, rfl, isOperand⟩

/-- The outcome of parsing is decided by the token behind the longest alternation. -/
theorem parse_of_isLongest (h : p.levels.IsLongest n tokens) :
    (∀ operator ∈ tokens[2 * n + 1]?, p.levels.Configures operator →
      (p.missingOperand = .reject → parse p tokens =
        ⟨.error (.missingOperand operator.value operator.column), 2 * n + 2⟩) ∧
      (p.missingOperand = .truncate → ∃ t, parse p tokens = ⟨.ok (some t), 2 * n + 1⟩)) ∧
    ((∀ operator ∈ tokens[2 * n + 1]?, ¬ p.levels.Configures operator) →
      ∃ t, parse p tokens = ⟨.ok (some t), 2 * n + 1⟩) := by
  obtain ⟨first, rest, rfl, isOperand⟩ := h.exists_cons
  obtain ⟨leaf, operand⟩ := Token.isOperand_iff.1 isOperand
  have run := climbs_climb p 0 leaf rest
  have final := run.final
  obtain ⟨k, longest, length, behind⟩ := run.isLongest operand
  obtain rfl := h.unique longest
  rw [parse_of_expression (expression_cons operand), behind, List.length_cons, length]
  generalize climb p 0 leaf rest = c at final
  cases c with
  | missing operator after =>
    obtain ⟨reject, _, _, level, heq, configured, -⟩ := final
    cases heq
    have parsed := Climb.parsed_missing operator after (2 * n + 2)
    refine ⟨?_, fun free => ?_⟩
    · rintro _ ⟨⟩ -
      refine ⟨fun _ => ?_, fun truncate => ?_⟩
      · rw [← parsed, Climb.unread, List.length_cons]
        congr 1
        omega
      · cases reject.symm.trans truncate
    · exact absurd (PrecedenceTable.configures_iff.2 ⟨level, configured⟩) (free operator rfl)
  | tree t after halted =>
    rw [Climb.unread, Nat.add_right_comm, Climb.parsed_tree]
    refine ⟨fun operator hop configured => ⟨fun reject => ?_, fun _ => ⟨t, rfl⟩⟩, fun _ => ⟨t, rfl⟩⟩
    cases halted with
    | false => exact absurd configured (PrecedenceTable.Ends.not_configures final operator hop)
    | true => cases final.1.symm.trans reject

theorem exists_isLongest (table : PrecedenceTable) (rest : List Token) (h : first.IsOperand) :
    ∃ n, table.IsLongest n (first :: rest) := by
  obtain ⟨leaf, operand⟩ := Token.isOperand_iff.1 h
  obtain ⟨n, longest, -⟩ := (climbs_climb ⟨table, .reject⟩ 0 leaf rest).isLongest operand
  exact ⟨n, longest⟩

theorem PrecedenceTable.Alternates.length (h : table.Alternates n tokens) :
    tokens.length = 2 * n + 1 := by
  obtain ⟨first, rest, rfl, -, pairs⟩ := h
  rw [List.length_cons, pairs.length]

theorem PrecedenceTable.Alternates.append {other : List Token} (h : table.Alternates n tokens)
    (configured : table.Configures operator) (h' : table.Alternates k other) :
    table.Alternates (n + (k + 1)) (tokens ++ operator :: other) := by
  obtain ⟨first, rest, rfl, isOperand, pairs⟩ := h
  obtain ⟨next, after, rfl, isOperand', pairs'⟩ := h'
  exact ⟨first, _, rfl, isOperand, pairs.append (.cons configured isOperand' pairs')⟩

theorem PrecedenceTable.Alternates.isLongest (h : table.Alternates n tokens) :
    table.IsLongest n tokens := by
  refine ⟨?_, fun k run start h' => ?_⟩
  · rwa [← h.length, List.take_length]
  · have := start.length_le
    rw [h.length, h'.length] at this
    omega

/-- The tokens that are read as a tree and to their end are the alternations. -/
theorem parseComplete_isSome_iff :
    (∃ t, (parseComplete p tokens).outcome = .ok (some t)) ↔
      ∃ n, p.levels.Alternates n tokens := by
  constructor
  · rintro ⟨t, h⟩
    obtain ⟨ht, read⟩ := parseComplete_eq_ok_iff.1 h
    obtain ⟨first, tail, leaf, rest, halted, rfl, operand, run, position⟩ :=
      exists_climbs_of_parse ht
    obtain ⟨n, pairsRun, pairs, htail⟩ := run.exists_pairs
    have short := run.suffix.length_le
    simp only [Climb.rest] at short
    obtain rfl : rest = [] := by
      rw [position, List.length_cons] at read
      exact List.eq_nil_of_length_eq_zero (by omega)
    rw [Climb.unread, List.append_nil] at htail
    exact ⟨n, first, tail, rfl, Token.isOperand_iff.2 ⟨leaf, operand⟩, htail ▸ pairs⟩
  · rintro ⟨n, h⟩
    obtain ⟨t, ht⟩ := (parse_of_isLongest h.isLongest).2 (by simp [h.length])
    exact ⟨t, parseComplete_eq_ok_iff.2 (by simp [ht, h.length])⟩

/-! ### Levels do not matter for the extent -/

/-- The outcome and the cursor, without the shape of the tree. -/
def Parsed.shapeless (r : Parsed) : Except ParseError Bool × Nat :=
  (r.outcome.map Option.isSome, r.position)

namespace PrecedenceTable

variable {other : PrecedenceTable}

theorem SameSymbols.configures_iff (h : table.SameSymbols other) {t : Token} :
    table.Configures t ↔ other.Configures t := by
  rw [Configures, Configures, h]

theorem SameSymbols.symm (h : table.SameSymbols other) : other.SameSymbols table :=
  fun symbol => (h symbol).symm

theorem SameSymbols.alternates (h : table.SameSymbols other) (ha : table.Alternates n tokens) :
    other.Alternates n tokens := by
  obtain ⟨first, rest, rfl, isOperand, pairs⟩ := ha
  refine ⟨first, rest, rfl, isOperand, ?_⟩
  clear isOperand
  induction pairs with
  | nil => exact .nil
  | cons configured isOperand _ ih => exact .cons (h.configures_iff.1 configured) isOperand ih

theorem SameSymbols.isLongest (h : table.SameSymbols other) (hl : table.IsLongest n tokens) :
    other.IsLongest n tokens :=
  ⟨h.alternates hl.alternates, fun k run start ha => hl.longest k run start (h.symm.alternates ha)⟩

end PrecedenceTable

/-- Tables of the same symbols read equally far, to the same error if there is one. -/
theorem shapeless_parse_of_sameSymbols {other : PrecedenceTable} (h : table.SameSymbols other)
    (policy : MissingOperand) (tokens : List Token) :
    (parse ⟨table, policy⟩ tokens).shapeless = (parse ⟨other, policy⟩ tokens).shapeless := by
  cases tokens with
  | nil => rfl
  | cons first rest =>
    by_cases isOperand : first.IsOperand
    · obtain ⟨n, longest⟩ := exists_isLongest table rest isOperand
      have one := parse_of_isLongest (p := ⟨table, policy⟩) longest
      have two := parse_of_isLongest (p := ⟨other, policy⟩) (h.isLongest longest)
      by_cases dangles : ∃ operator ∈ (first :: rest)[2 * n + 1]?, table.Configures operator
      · obtain ⟨operator, hop, configured⟩ := dangles
        replace one := one.1 operator hop configured
        replace two := two.1 operator hop (h.configures_iff.1 configured)
        cases policy with
        | reject => rw [one.1 rfl, two.1 rfl]
        | truncate =>
          obtain ⟨t, ht⟩ := one.2 rfl
          obtain ⟨t', ht'⟩ := two.2 rfl
          rw [ht, ht']
          rfl
      · have free : ∀ operator ∈ (first :: rest)[2 * n + 1]?, ¬ table.Configures operator :=
          fun operator hop configured => dangles ⟨operator, hop, configured⟩
        obtain ⟨t, ht⟩ := one.2 free
        obtain ⟨t', ht'⟩ := two.2 fun operator hop configured =>
          free operator hop (h.configures_iff.2 configured)
        rw [ht, ht']
        rfl
    · have bare := Token.not_isOperand_iff.1 isOperand
      rw [parse_of_operand?_eq_none bare, parse_of_operand?_eq_none bare]

/-- The shape of the tree does depend on the levels. -/
theorem exists_parse_ne_of_sameSymbols : ∃ (one two : PrecedenceTable) (stream : List Token),
    one.SameSymbols two ∧
      ∀ policy, (parse ⟨one, policy⟩ stream).outcome ≠ (parse ⟨two, policy⟩ stream).outcome := by
  refine ⟨(PrecedenceTable.empty.insert "+" 1).insert "*" 2,
    (PrecedenceTable.empty.insert "+" 2).insert "*" 1,
    [⟨.identifier, "a", 1, 1, 0⟩, ⟨.operator, "+", 1, 2, 0⟩, ⟨.identifier, "b", 1, 3, 0⟩,
      ⟨.operator, "*", 1, 4, 0⟩, ⟨.identifier, "c", 1, 5, 0⟩], fun symbol => ?_, fun policy => ?_⟩
  · simp only [PrecedenceTable.level?_insert, PrecedenceTable.level?_empty]
    split
    · rfl
    · split <;> rfl
  · rw [parse_of_reading (t := .binary "+" (.identifier "a")
        (.binary "*" (.identifier "b") (.identifier "c"))) (by decide) (by decide) policy,
      parse_of_reading (t := .binary "*" (.binary "+" (.identifier "a") (.identifier "b"))
        (.identifier "c")) (by decide) (by decide) policy]
    simp

/-- **Parsing reads the longest alternation** of operands and operators of the table, and the
token behind it decides the outcome.  Without an operand at the start nothing is read.  Levels
give the tree its shape and have no other effect.  A parser with levels as bytes does the same. -/
theorem parse_longest (levels : PrecedenceTable) (tokens : List Token) :
    (tokens = [] → ∀ policy, parse ⟨levels, policy⟩ tokens = ⟨.ok none, 0⟩) ∧
    (∀ first ∈ tokens.head?, ¬ first.IsOperand →
      parse ⟨levels, .reject⟩ tokens =
        ⟨.error (.expectedOperand first.value first.kind first.column), 0⟩ ∧
      parse ⟨levels, .truncate⟩ tokens = ⟨.ok none, 0⟩) ∧
    (∀ first ∈ tokens.head?, first.IsOperand → ∃ n, levels.IsLongest n tokens ∧
      (∀ operator ∈ tokens[2 * n + 1]?, levels.Configures operator →
        parse ⟨levels, .reject⟩ tokens =
          ⟨.error (.missingOperand operator.value operator.column), 2 * n + 2⟩ ∧
        ∃ t, parse ⟨levels, .truncate⟩ tokens = ⟨.ok (some t), 2 * n + 1⟩) ∧
      ((∀ operator ∈ tokens[2 * n + 1]?, ¬ levels.Configures operator) →
        ∀ policy, ∃ t, parse ⟨levels, policy⟩ tokens = ⟨.ok (some t), 2 * n + 1⟩)) ∧
    (∀ other : PrecedenceTable, levels.SameSymbols other → ∀ policy,
      (parse ⟨levels, policy⟩ tokens).shapeless = (parse ⟨other, policy⟩ tokens).shapeless) ∧
    (∃ (one two : PrecedenceTable) (stream : List Token), one.SameSymbols two ∧
      ∀ policy, (parse ⟨one, policy⟩ stream).outcome ≠ (parse ⟨two, policy⟩ stream).outcome) ∧
    (levels.All (· ≤ 254) → ∀ policy,
      Parser.parsed (Parser.new ⟨levels, policy⟩ ⟨tokens⟩).parse = parse ⟨levels, policy⟩ tokens) := by
  refine ⟨?_, ?_, ?_, fun other h policy => shapeless_parse_of_sameSymbols h policy tokens,
    exists_parse_ne_of_sameSymbols, fun bytes policy => Parser.parsed_parse bytes⟩
  · rintro rfl policy
    rfl
  · cases tokens with
    | nil => rintro _ ⟨⟩
    | cons first rest =>
      rintro _ ⟨⟩ notOperand
      have bare := Token.not_isOperand_iff.1 notOperand
      exact ⟨parse_of_operand?_eq_none bare, parse_of_operand?_eq_none bare⟩
  · cases tokens with
    | nil => rintro _ ⟨⟩
    | cons first rest =>
      rintro _ ⟨⟩ isOperand
      obtain ⟨n, longest⟩ := exists_isLongest levels rest isOperand
      have outcome := fun policy => parse_of_isLongest (p := ⟨levels, policy⟩) longest
      refine ⟨n, longest, fun operator hop configured => ⟨?_, ?_⟩, fun free policy => ?_⟩
      · exact ((outcome .reject).1 operator hop configured).1 rfl
      · exact ((outcome .truncate).1 operator hop configured).2 rfl
      · exact (outcome policy).2 free

end GovernedExpr
