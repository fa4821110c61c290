import GovernedExpr.Proofs.Parsing.Alternation
import GovernedExpr.Proofs.Parsing.Cursor

/-!
# Only the order of levels matters

Climbing compares levels and does nothing else with them.  Two tables that know the same operators
of some tokens, and put them in the same order, read these tokens alike.

* `PrecedenceTable.OrdersLike` is the relation between the tables;
* `PrecedenceTable.Matches` relates two minimum levels that let the same operators bind, as the
  levels behind those of one operator do (`PrecedenceTable.OrdersLike.exists_level`);
* `Climbs.of_ordersLike` turns a run with one table into a run with the other;
* `parse_of_ordersLike` says that parsing gives the same trees, errors and cursors.
-/

namespace GovernedExpr

variable {one two : PrecedenceTable} {policy : MissingOperand} {m n : Nat} {left : Tree}
  {stream tokens : List Token} {operator : Token} {c : Climb}

namespace PrecedenceTable

instance (table : PrecedenceTable) (t : Token) : Decidable (table.Configures t) :=
  inferInstanceAs (Decidable (_ ∧ _))

/-- The tables know the same operators among the tokens, and compare every two of them alike. -/
structure OrdersLike (one two : PrecedenceTable) (tokens : List Token) : Prop where
  configures : ∀ t ∈ tokens, one.Configures t ↔ two.Configures t
  compares : ∀ s ∈ tokens, ∀ t ∈ tokens, ∀ a ∈ one.levelOf? s, ∀ b ∈ one.levelOf? t,
    ∀ a' ∈ two.levelOf? s, ∀ b' ∈ two.levelOf? t, (a ≤ b ↔ a' ≤ b')

/-- The same operators among the tokens bind at the one minimum level in the one table, and at the
other in the other. -/
def Matches (one two : PrecedenceTable) (tokens : List Token) (m n : Nat) : Prop :=
  ∀ t ∈ tokens, ∀ a ∈ one.levelOf? t, ∀ b ∈ two.levelOf? t, (m ≤ a ↔ n ≤ b)

theorem matches_zero (one two : PrecedenceTable) (tokens : List Token) :
    one.Matches two tokens 0 0 :=
  fun _ _ a _ b _ => ⟨fun _ => Nat.zero_le b, fun _ => Nat.zero_le a⟩

/-- An operator that binds in the one table binds in the other, and behind its levels the same
operators bind, whatever lies between the levels. -/
theorem OrdersLike.exists_level {a : Nat} (h : one.OrdersLike two stream)
    (levels : one.Matches two stream m n) (mem : operator ∈ stream)
    (configured : one.levelOf? operator = some a) (binds : m ≤ a) :
    ∃ b, two.levelOf? operator = some b ∧ n ≤ b ∧ one.Matches two stream (a + 1) (b + 1) := by
  obtain ⟨b, hb⟩ := configures_iff.1
    ((h.configures operator mem).1 (configures_iff.2 ⟨a, configured⟩))
  refine ⟨b, hb, (levels operator mem a configured b hb).1 binds, ?_⟩
  intro t ht a' ha' b' hb'
  have := h.compares t ht operator mem a' ha' a configured b' hb' b hb
  omega

theorem Ends.of_matches (ends : one.Ends m tokens) (h : one.OrdersLike two stream)
    (levels : one.Matches two stream m n) (within : tokens <:+ stream) : two.Ends n tokens := by
  intro t ht b hb
  have mem := within.subset (List.mem_of_mem_head? ht)
  obtain ⟨a, ha⟩ := configures_iff.1 ((h.configures t mem).2 (configures_iff.2 ⟨b, hb⟩))
  have low := ends t ht a ha
  have := levels t mem a ha b hb
  omega

end PrecedenceTable

/-- **A run with one table is a run with the other**, at a minimum level that lets the same
operators bind. -/
theorem Climbs.of_ordersLike (run : Climbs ⟨one, policy⟩ m left tokens c)
    (h : one.OrdersLike two stream) (levels : one.Matches two stream m n)
    (within : tokens <:+ stream) : Climbs ⟨two, policy⟩ n left tokens c := by
  induction run generalizing n with
  | stop ends => exact .stop (PrecedenceTable.Ends.of_matches ends h levels within)
  | dangling configured binds bare =>
    obtain ⟨b, hb, binds', -⟩ :=
      h.exists_level levels (within.subset List.mem_cons_self) configured binds
    exact .dangling hb binds' bare
  | missing configured binds operand _ ih =>
    obtain ⟨b, hb, binds', behind⟩ :=
      h.exists_level levels (within.subset List.mem_cons_self) configured binds
    have tail := (List.suffix_append [_, _] _).trans within
    exact .missing hb binds' operand (ih behind tail)
  | halted configured binds operand _ ih =>
    obtain ⟨b, hb, binds', behind⟩ :=
      h.exists_level levels (within.subset List.mem_cons_self) configured binds
    have tail := (List.suffix_append [_, _] _).trans within
    exact .halted hb binds' operand (ih behind tail)
  | fold configured binds operand right _ ih ihnext =>
    obtain ⟨b, hb, binds', behind⟩ :=
      h.exists_level levels (within.subset List.mem_cons_self) configured binds
    have tail := (List.suffix_append [_, _] _).trans within
    exact .fold hb binds' operand (ih behind tail) (ihnext levels (right.suffix.trans tail))

theorem parse_eq_of_ordersLike (h : one.OrdersLike two tokens) (policy : MissingOperand) :
    parse ⟨one, policy⟩ tokens = parse ⟨two, policy⟩ tokens := by
  cases tokens with
  | nil => rfl
  | cons first rest =>
    cases operand : first.operand? with
    | none => rw [parse_of_operand?_eq_none operand, parse_of_operand?_eq_none operand]
    | some leaf =>
      have run := climbs_climb ⟨one, policy⟩ 0 leaf rest
      have same := run.of_ordersLike h (PrecedenceTable.matches_zero one two _)
        (List.suffix_cons first rest)
      rw [parse_of_expression (expression_cons operand),
        parse_of_expression (expression_cons operand), same.climb_eq]

/-- **Only the order of levels matters.**  Tables that know the same operators of some tokens and
compare them alike give parsers with the same tree or error, and the same cursor. -/
theorem parse_of_ordersLike (h : one.OrdersLike two tokens) (bytes : one.All (· ≤ 254))
    (bytes' : two.All (· ≤ 254)) (policy : MissingOperand) :
    Parser.parsed (Parser.new ⟨one, policy⟩ ⟨tokens⟩).parse =
        Parser.parsed (Parser.new ⟨two, policy⟩ ⟨tokens⟩).parse ∧
      Parser.parsed (Parser.new ⟨one, policy⟩ ⟨tokens⟩).parseComplete =
        Parser.parsed (Parser.new ⟨two, policy⟩ ⟨tokens⟩).parseComplete := by
  have same := parse_eq_of_ordersLike h policy
  constructor
  · rw [Parser.parsed_parse bytes, Parser.parsed_parse bytes']
    exact same
  · rw [Parser.parsed_parseComplete bytes, Parser.parsed_parseComplete bytes']
    unfold parseComplete
    rw [Parser.new, Parser.new, same]

/-- The extreme levels, and levels next to each other; a symbol that does not occur, and one that
occurs without being an operator, may be anywhere. -/
theorem parse_of_ordersLike_extreme :
    let one := (((PrecedenceTable.empty.insert "+" 0).insert "*" 254).insert "/" 254).insert "x" 3
    let two := (((PrecedenceTable.empty.insert "+" 7).insert "*" 8).insert "/" 8).insert "-" 200
    let tokens : List Token :=
      [⟨.identifier, "x", 1, 1, 0⟩, ⟨.operator, "*", 1, 2, 0⟩, ⟨.number, "2", 1, 3, 0⟩,
        ⟨.operator, "+", 1, 4, 0⟩, ⟨.identifier, "y", 1, 5, 0⟩, ⟨.operator, "/", 1, 6, 0⟩]
    (one.OrdersLike two tokens ∧ one.All (· ≤ 254) ∧ two.All (· ≤ 254)) ∧
      (Parser.parsed (Parser.new ⟨one, .truncate⟩ ⟨tokens⟩).parse =
          Parser.parsed (Parser.new ⟨two, .truncate⟩ ⟨tokens⟩).parse ∧
        Parser.parsed (Parser.new ⟨one, .truncate⟩ ⟨tokens⟩).parseComplete =
          Parser.parsed (Parser.new ⟨two, .truncate⟩ ⟨tokens⟩).parseComplete) := by
  intro one two tokens
  have h : one.OrdersLike two tokens := ⟨by decide, by decide⟩
  have bytes : one.All (· ≤ 254) :=
    (((PrecedenceTable.all_empty.insert _ (by decide)).insert _ (by decide)).insert _
      (by decide)).insert _ (by decide)
  have bytes' : two.All (· ≤ 254) :=
    (((PrecedenceTable.all_empty.insert _ (by decide)).insert _ (by decide)).insert _
      (by decide)).insert _ (by decide)
  exact ⟨⟨h, bytes, bytes'⟩, parse_of_ordersLike h bytes bytes' .truncate⟩

end GovernedExpr
