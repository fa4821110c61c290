import GovernedExpr.Proofs.Parsing.Cursor

/-!
# Trees in the order of their levels

Parsing and writing in order are inverse to each other on the trees that respect a table.

* `Tree.reading` writes a tree in order, as kinds and texts of tokens;
* `Tree.Respects` says that a tree has binary operators of the table only, that what stands left
  of an operator binds at least as tight, and what stands right of it binds tighter;
* `Tree.Ready` is the invariant of the loop: the left operand respects the table and binds at
  least as tight as the operator that follows it;
* `parse_respects` says that a parsed tree respects the table and is read off the tokens that
  were consumed, `parseComplete_of_reading` that every tree that respects the table is parsed
  back from its own tokens, so that no two such trees are written alike; both are about climbing
  along a list of tokens, and about parsers with a cursor, which count levels in bytes.
-/

namespace GovernedExpr

variable {p : ParserSettings} {table : PrecedenceTable} {minLevel level : Nat} {t left right : Tree}
  {tokens rest : List Token} {c : Climb}

/-- The kind and the text of a token. -/
def Token.symbol (t : Token) : TokenKind × String := (t.kind, t.value)

namespace Tree

/-- The leaves and operators in order: a binary operator between its operands, a unary operator
before its operand. -/
def reading : Tree → List (TokenKind × String)
  | .identifier name => [(.identifier, name)]
  | .number text => [(.number, text)]
  | .binary operator left right => left.reading ++ (.operator, operator) :: right.reading
  | .unary operator operand => (.operator, operator) :: operand.reading

/-- The symbols of all operators. -/
def operators : Tree → List String
  | .identifier _ => []
  | .number _ => []
  | .binary operator left right => operator :: (left.operators ++ right.operators)
  | .unary operator operand => operator :: operand.operators

/-- There is no unary operator. -/
def IsBinary : Tree → Prop
  | .identifier _ => True
  | .number _ => True
  | .binary _ left right => left.IsBinary ∧ right.IsBinary
  | .unary _ _ => False

/-- Every operator is in the table, at the given level or above. -/
def AtLeast (table : PrecedenceTable) (level : Nat) (t : Tree) : Prop :=
  ∀ s ∈ t.operators, ∃ l ∈ table.level? s, level ≤ l

/-- At every binary operator of some level, the operators of the left operand are of that level
or above, and those of the right operand are above it. -/
def Levelled (table : PrecedenceTable) : Tree → Prop
  | .identifier _ => True
  | .number _ => True
  | .binary operator left right =>
    (∀ level ∈ table.level? operator,
      left.AtLeast table level ∧ right.AtLeast table (level + 1)) ∧
      left.Levelled table ∧ right.Levelled table
  | .unary _ operand => operand.Levelled table

/-- The shape that a table gives to a tree. -/
structure Respects (table : PrecedenceTable) (t : Tree) : Prop where
  isBinary : t.IsBinary
  configured : ∀ s ∈ t.operators, (table.level? s).isSome
  levelled : t.Levelled table

instance (table : PrecedenceTable) (level : Nat) (t : Tree) : Decidable (t.AtLeast table level) :=
  inferInstanceAs (Decidable (∀ s ∈ t.operators, ∃ l ∈ table.level? s, level ≤ l))

instance decidableIsBinary : (t : Tree) → Decidable t.IsBinary
  | .identifier _ => .isTrue trivial
  | .number _ => .isTrue trivial
  | .binary _ left right =>
    have := decidableIsBinary left
    have := decidableIsBinary right
    inferInstanceAs (Decidable (_ ∧ _))
  | .unary _ _ => .isFalse id

instance decidableLevelled (table : PrecedenceTable) : (t : Tree) → Decidable (t.Levelled table)
  | .identifier _ => .isTrue trivial
  | .number _ => .isTrue trivial
  | .binary operator left right =>
    have := decidableLevelled table left
    have := decidableLevelled table right
    inferInstanceAs (Decidable ((∀ level ∈ table.level? operator,
      left.AtLeast table level ∧ right.AtLeast table (level + 1)) ∧ _ ∧ _))
  | .unary _ operand => decidableLevelled table operand

instance (table : PrecedenceTable) (t : Tree) : Decidable (t.Respects table) :=
  decidable_of_iff (t.IsBinary ∧ (∀ s ∈ t.operators, (table.level? s).isSome) ∧ t.Levelled table)
    ⟨fun ⟨b, c, l⟩ => ⟨b, c, l⟩, fun ⟨b, c, l⟩ => ⟨b, c, l⟩⟩

/-- The tree binds at least as tight as the operator of the table that stands first, if one
does. -/
def Outbinds (table : PrecedenceTable) (t : Tree) (tokens : List Token) : Prop :=
  ∀ operator ∈ tokens.head?, ∀ level ∈ table.levelOf? operator, t.AtLeast table level

/-- The invariant of the loop at a minimum level: what holds of the left operand in front of the
tokens that follow, each time round. -/
structure Ready (table : PrecedenceTable) (minLevel : Nat) (left : Tree) (tokens : List Token) :
    Prop where
  respects : left.Respects table
  atLeast : left.AtLeast table minLevel
  outbinds : left.Outbinds table tokens

/-! ### Levels of all operators of a tree -/

theorem AtLeast.mono {m n : Nat} (h : t.AtLeast table n) (hle : m ≤ n) : t.AtLeast table m := by
  intro s hs
  obtain ⟨l, hl, hn⟩ := h s hs
  exact ⟨l, hl, Nat.le_trans hle hn⟩

theorem atLeast_binary {operator : String} (hop : table.level? operator = some level) :
    (binary operator left right).AtLeast table minLevel ↔
      minLevel ≤ level ∧ left.AtLeast table minLevel ∧ right.AtLeast table minLevel := by
  simp only [AtLeast, operators, List.mem_cons, List.mem_append]
  constructor
  · intro h
    obtain ⟨l, hl, hle⟩ := h operator (.inl rfl)
    obtain rfl : level = l := Option.some.inj (hop.symm.trans hl)
    exact ⟨hle, fun s hs => h s (.inr (.inl hs)), fun s hs => h s (.inr (.inr hs))⟩
  · rintro ⟨hle, hleft, hright⟩ s (rfl | hs | hs)
    · exact ⟨level, hop, hle⟩
    · exact hleft s hs
    · exact hright s hs

/-- A binary tree respects a table if its parts do and its operator stands at the right level
between them. -/
theorem respects_binary {operator : String} :
    (binary operator left right).Respects table ↔
      ∃ level, table.level? operator = some level ∧ left.Respects table ∧
        right.Respects table ∧ left.AtLeast table level ∧ right.AtLeast table (level + 1) := by
  constructor
  · rintro ⟨⟨bl, br⟩, configured, lv, ll, lr⟩
    simp only [operators, List.mem_cons, List.mem_append] at configured
    obtain ⟨level, hop⟩ := Option.isSome_iff_exists.1 (configured operator (.inl rfl))
    exact ⟨level, hop, ⟨bl, fun s hs => configured s (.inr (.inl hs)), ll⟩,
      ⟨br, fun s hs => configured s (.inr (.inr hs)), lr⟩, lv level hop⟩
  · rintro ⟨level, hop, hl, hr, leftLevel, rightLevel⟩
    refine ⟨⟨hl.isBinary, hr.isBinary⟩, ?_, ?_, hl.levelled, hr.levelled⟩
    · simp only [operators, List.mem_cons, List.mem_append]
      rintro s (rfl | hs | hs)
      · simp [hop]
      · exact hl.configured s hs
      · exact hr.configured s hs
    · intro l hl
      obtain rfl : level = l := Option.some.inj (hop.symm.trans hl)
      exact ⟨leftLevel, rightLevel⟩

/-! ### The invariant of the loop -/

/-- A loop for the right side of an operator leaves behind it no operator that binds tighter
than the tree built at that operator. -/
theorem AtLeast.outbinds (h : t.AtLeast table level) (ends : table.Ends (level + 1) rest) :
    t.Outbinds table rest :=
  fun operator hop l hl => h.mono (Nat.le_of_lt_succ (ends operator hop l hl))

theorem Outbinds.ends {operator : String} (h : (binary operator left right).Outbinds table rest)
    (hop : table.level? operator = some level) : table.Ends (level + 1) rest := by
  intro next hnext l hl
  have := ((atLeast_binary hop).1 (h next hnext l hl)).1
  omega

/-- A round of the loop builds a tree that respects the table, at the level of its operator. -/
theorem Ready.binary {operator : Token} (h : left.Ready table minLevel (operator :: rest))
    (configured : table.levelOf? operator = some level) (hright : right.Respects table)
    (rightLevel : right.AtLeast table (level + 1)) :
    (binary operator.value left right).Respects table ∧
      (binary operator.value left right).AtLeast table level := by
  have hop := (PrecedenceTable.levelOf?_eq_some_iff.1 configured).2
  have leftLevel := h.outbinds operator rfl level configured
  exact ⟨respects_binary.2 ⟨level, hop, h.respects, hright, leftLevel, rightLevel⟩,
    (atLeast_binary hop).2 ⟨Nat.le_refl _, leftLevel, rightLevel.mono (Nat.le_succ _)⟩⟩

end Tree

/-! ### Operands -/

namespace Token

variable {x : Token} {leaf : Tree}

theorem operand?_eq_some (h : x.operand? = some leaf) :
    x.kind = .identifier ∧ leaf = .identifier x.value ∨
      x.kind = .number ∧ leaf = .number x.value := by
  unfold operand? at h
  split at h <;> simp_all

theorem reading_of_operand? (h : x.operand? = some leaf) : leaf.reading = [x.symbol] := by
  obtain ⟨hk, rfl⟩ | ⟨hk, rfl⟩ := operand?_eq_some h <;> simp [Tree.reading, symbol, hk]

theorem atLeast_of_operand? (h : x.operand? = some leaf) : leaf.AtLeast table level := by
  obtain ⟨-, rfl⟩ | ⟨-, rfl⟩ := operand?_eq_some h <;> simp [Tree.AtLeast, Tree.operators]

theorem respects_of_operand? (h : x.operand? = some leaf) : leaf.Respects table := by
  obtain ⟨-, rfl⟩ | ⟨-, rfl⟩ := operand?_eq_some h <;>
    exact ⟨trivial, by simp [Tree.operators], trivial⟩

theorem ready_of_operand? (h : x.operand? = some leaf) : leaf.Ready table minLevel tokens :=
  ⟨respects_of_operand? h, atLeast_of_operand? h, fun _ _ _ _ => atLeast_of_operand? h⟩

end Token

/-! ### What the loop builds -/

/-- The tree that climbing comes to, if it comes to one. -/
def Climb.tree? : Climb → Option Tree
  | .tree t _ _ => some t
  | .missing _ _ => none

/-- The loop loses no token and doubles none. -/
theorem Climbs.reading_append (h : Climbs p minLevel left tokens c) : ∀ t ∈ c.tree?,
    t.reading ++ c.rest.map Token.symbol = left.reading ++ tokens.map Token.symbol := by
  induction h with
  | stop _ => simp [Climb.tree?, Climb.rest]
  | @dangling _ _ left operator rest _ _ _ =>
    obtain ⟨-, hd⟩ | ⟨-, hd⟩ := p.dangling_eq left operator rest <;>
      simp [hd, Climb.tree?, Climb.rest]
  | missing _ _ _ _ _ => simp [Climb.tree?]
  | halted configured _ operand _ ih =>
    have hop := (PrecedenceTable.levelOf?_eq_some_iff.1 configured).1
    have hright := ih _ rfl
    simp only [Climb.rest, Token.reading_of_operand? operand] at hright
    simp [Climb.tree?, Climb.rest, Tree.reading, hright, Token.symbol, hop]
  | fold configured _ operand _ _ ih ihnext =>
    have hop := (PrecedenceTable.levelOf?_eq_some_iff.1 configured).1
    have hright := ih _ rfl
    simp only [Climb.rest, Token.reading_of_operand? operand] at hright
    intro t ht
    rw [ihnext t ht]
    simp [Tree.reading, hright, Token.symbol, hop]

/-- From a left operand for which the invariant holds, the loop comes to a tree that respects
the table. -/
theorem Climbs.respects (h : Climbs p minLevel left tokens c)
    (ready : left.Ready p.levels minLevel tokens) :
    ∀ t ∈ c.tree?, t.Respects p.levels ∧ t.AtLeast p.levels minLevel := by
  induction h with
  | stop _ =>
    rintro t ⟨⟩
    exact ⟨ready.respects, ready.atLeast⟩
  | @dangling _ _ left operator rest _ _ _ =>
    obtain ⟨-, hd⟩ | ⟨-, hd⟩ := p.dangling_eq left operator rest <;> rw [hd] <;> rintro t ⟨⟩
    exact ⟨ready.respects, ready.atLeast⟩
  | missing _ _ _ _ _ => rintro t ⟨⟩
  | halted configured binds operand _ ih =>
    obtain ⟨hright, rightLevel⟩ := ih (Token.ready_of_operand? operand) _ rfl
    obtain ⟨respects, atLeast⟩ := ready.binary configured hright rightLevel
    rintro t ⟨⟩
    exact ⟨respects, atLeast.mono binds⟩
  | fold configured binds operand right _ ih ihnext =>
    obtain ⟨hright, rightLevel⟩ := ih (Token.ready_of_operand? operand) _ rfl
    obtain ⟨respects, atLeast⟩ := ready.binary configured hright rightLevel
    -- the right side took every operator above this one, so the invariant holds behind it
    exact ihnext ⟨respects, atLeast.mono binds, atLeast.outbinds right.final⟩

/-! ### Soundness -/

/-- A tree that respects a table is read off the first tokens of a stream. -/
structure Tree.IsReadOff (t : Tree) (table : PrecedenceTable) (tokens : List Token) (k : Nat) :
    Prop where
  within : k ≤ tokens.length
  reading : t.reading = (tokens.take k).map Token.symbol
  respects : t.Respects table

theorem isReadOff_of_parse (h : (parse p tokens).outcome = .ok (some t)) :
    t.IsReadOff p.levels tokens (parse p tokens).position := by
  obtain ⟨first, tail, leaf, rest, halted, rfl, operand, run, position⟩ :=
    exists_climbs_of_parse h
  obtain ⟨consumed, hcons⟩ := run.suffix.trans (List.suffix_cons first tail)
  simp only [Climb.rest] at hcons
  have length : (first :: tail).length - rest.length = consumed.length := by
    rw [← hcons, List.length_append, Nat.add_sub_cancel]
  have written : t.reading ++ rest.map Token.symbol = (first :: tail).map Token.symbol := by
    have := run.reading_append t rfl
    rwa [Token.reading_of_operand? operand] at this
  rw [position, length]
  refine ⟨?_, ?_, ?_⟩
  · rw [← hcons, List.length_append]
    exact Nat.le_add_right _ _
  · rw [← hcons, List.map_append] at written
    rw [← hcons, List.take_left]
    exact List.append_cancel_right written
  · exact (run.respects (Token.ready_of_operand? operand) t rfl).1

/-- **A parsed tree respects the table and is read off the tokens that were consumed**, whether it is
parsed along the list of tokens, with levels of any size, or by a parser with a cursor, whose levels
are bytes. -/
theorem parse_respects (t : Tree) :
    (∀ (p : ParserSettings) (tokens : List Token), (parse p tokens).outcome = .ok (some t) →
      t.IsReadOff p.levels tokens (parse p tokens).position) ∧
    ∀ r r' : Parser, r.settings.levels.All (· ≤ 254) → r.parse = (.ok (some t), r') →
      t.IsReadOff r.settings.levels r.tokens r'.position := by
  refine ⟨fun p tokens => isReadOff_of_parse, fun r r' bytes h => ?_⟩
  have same : (⟨.ok (some t), r'.position⟩ : Parsed) = parse r.settings r.tokens := by
    rw [← Parser.parsed_parse bytes, h, Parser.parsed]
  have parsed : (parse r.settings r.tokens).outcome = .ok (some t) := by rw [← same]
  have readOff := isReadOff_of_parse parsed
  rwa [← same] at readOff

/-- Inverted levels, and a dangling operator that is left behind. -/
theorem parse_respects_truncated :
    let p : ParserSettings :=
      ⟨((PrecedenceTable.empty.insert "+" 30).insert "*" 10).insert "-" 10, .truncate⟩
    let tokens : List Token :=
      [⟨.identifier, "a", 1, 1, 0⟩, ⟨.operator, "*", 1, 2, 0⟩, ⟨.identifier, "b", 1, 3, 0⟩,
        ⟨.operator, "+", 1, 4, 0⟩, ⟨.number, "2", 1, 5, 0⟩, ⟨.operator, "-", 1, 6, 0⟩]
    let t : Tree := .binary "*" (.identifier "a") (.binary "+" (.identifier "b") (.number "2"))
    ((parse p tokens).outcome = .ok (some t) ∧
      t.IsReadOff p.levels tokens (parse p tokens).position) ∧
    p.levels.All (· ≤ 254) ∧
      (Parser.new p ⟨tokens⟩).parse = (.ok (some t), ⟨p, tokens, 5, true⟩) ∧
      t.IsReadOff p.levels tokens 5 := by
  intro p tokens t
  have run : expression p 0 tokens = some (.tree t [⟨.operator, "-", 1, 6, 0⟩] true) := by
    decide +kernel
  have h : (parse p tokens).outcome = .ok (some t) := by rw [parse_of_expression run]; rfl
  have bytes : p.levels.All (· ≤ 254) :=
    ((PrecedenceTable.all_empty.insert _ (by decide)).insert _ (by decide)).insert _ (by decide)
  have read : (Parser.new p ⟨tokens⟩).parse = (.ok (some t), ⟨p, tokens, 5, true⟩) :=
    Prod.ext ((congrArg Parsed.outcome (Parser.parsed_parse bytes)).trans h) (by decide +kernel)
  exact ⟨⟨h, (parse_respects t).1 p tokens h⟩, bytes, read, (parse_respects t).2 _ _ bytes read⟩

/-! ### Completeness -/

theorem Token.operand?_of_symbol_eq {x : Token} (h : [x].map Token.symbol = t.reading)
    (hop : t.operators = []) : x.operand? = some t := by
  cases t <;> simp_all [Token.symbol, Tree.reading, Tree.operators, Token.operand?]

/-- Reading the tokens of a tree in front of other tokens comes to climbing from that tree, if
the tree respects the table and binds at least as tight as the operator that follows. -/
theorem expression_append (hm : t.AtLeast p.levels minLevel) (ht : t.Respects p.levels)
    (written : tokens.map Token.symbol = t.reading) (outbinds : t.Outbinds p.levels rest) :
    expression p minLevel (tokens ++ rest) = some (climb p minLevel t rest) := by
  induction t generalizing minLevel tokens rest with
  | identifier name =>
    obtain ⟨x, rfl, hx⟩ := List.map_eq_singleton_iff.1 written
    exact expression_cons (Token.operand?_of_symbol_eq written rfl)
  | number text =>
    obtain ⟨x, rfl, hx⟩ := List.map_eq_singleton_iff.1 written
    exact expression_cons (Token.operand?_of_symbol_eq written rfl)
  | binary operator left right ihl ihr =>
    obtain ⟨level, hop, hl, hr, leftLevel, rightLevel⟩ := Tree.respects_binary.1 ht
    obtain ⟨binds, hml, -⟩ := (Tree.atLeast_binary hop).1 hm
    obtain ⟨before, others, rfl, writtenLeft, hothers⟩ := List.map_eq_append_iff.1 written
    obtain ⟨x, after, rfl, hx, writtenRight⟩ := List.map_eq_cons_iff.1 hothers
    obtain ⟨hkind, rfl⟩ : x.kind = .operator ∧ x.value = operator := by
      simpa [Token.symbol] using hx
    have configured := PrecedenceTable.levelOf?_eq_some_iff.2 ⟨hkind, hop⟩
    -- the operator ends the loop for the left side, and what follows ends that for the right side
    have ends := outbinds.ends hop
    have rightOutbinds : right.Outbinds p.levels rest := fun next hnext l hl =>
      ((Tree.atLeast_binary hop).1 (outbinds next hnext l hl)).2.2
    have leftOutbinds : left.Outbinds p.levels (x :: (after ++ rest)) := by
      rintro _ ⟨⟩ l hl
      cases configured.symm.trans hl
      exact leftLevel
    calc expression p minLevel (before ++ x :: after ++ rest)
        = expression p minLevel (before ++ x :: (after ++ rest)) := by simp
      _ = some (climb p minLevel left (x :: (after ++ rest))) :=
          ihl hml hl writtenLeft leftOutbinds
      _ = some (climb p minLevel (.binary x.value left right) rest) := by
          rw [climb_cons _ _ configured binds, ihr rightLevel hr writtenRight rightOutbinds,
            climb_of_ends ends]
  | unary operator operand _ => exact ht.isBinary.elim

theorem Tree.Respects.atLeast_zero (h : t.Respects table) : t.AtLeast table 0 := by
  intro s hs
  obtain ⟨level, hl⟩ := Option.isSome_iff_exists.1 (h.configured s hs)
  exact ⟨level, hl, Nat.zero_le _⟩

theorem parse_of_reading (ht : t.Respects table) (written : tokens.map Token.symbol = t.reading)
    (policy : MissingOperand) : parse ⟨table, policy⟩ tokens = ⟨.ok (some t), tokens.length⟩ := by
  have h : expression ⟨table, policy⟩ 0 (tokens ++ []) = some (climb ⟨table, policy⟩ 0 t []) :=
    expression_append ht.atLeast_zero ht written (by rintro _ ⟨⟩)
  rw [List.append_nil, climb_of_ends (by rintro _ ⟨⟩)] at h
  exact parse_of_expression h

/-- **A tree that respects the table is parsed back from its own tokens**, under either policy, along
the list of tokens and by a parser with levels as bytes; so no other such tree is written alike. -/
theorem parseComplete_of_reading (ht : t.Respects table)
    (written : tokens.map Token.symbol = t.reading) :
    (∀ policy, parseComplete ⟨table, policy⟩ tokens = ⟨.ok (some t), tokens.length⟩) ∧
    (table.All (· ≤ 254) → ∀ policy, Parser.parsed (Parser.new ⟨table, policy⟩ ⟨tokens⟩).parseComplete =
      ⟨.ok (some t), tokens.length⟩) ∧
      ∀ t' : Tree, t'.Respects table → t'.reading = t.reading → t' = t := by
  have whole : ∀ policy, parseComplete ⟨table, policy⟩ tokens = ⟨.ok (some t), tokens.length⟩ :=
    fun policy => by simp [parseComplete, parse_of_reading ht written policy]
  refine ⟨whole, fun bytes policy => ?_, fun t' ht' alike => ?_⟩
  · exact (Parser.parsed_parseComplete bytes).trans (whole policy)
  · have h := parse_of_reading ht written .reject
    have h' := parse_of_reading ht' (written.trans alike.symm) .reject
    cases h.symm.trans h'
    rfl

/-- Operators of one level that associate to the left, below one that binds tighter. -/
theorem parseComplete_of_reading_mixed :
    let table : PrecedenceTable := ((PrecedenceTable.empty.insert "+" 3).insert "-" 3).insert "*" 0
    let t : Tree := .binary "*" (.binary "-" (.binary "+" (.number "1") (.identifier "x"))
      (.number "2")) (.identifier "y")
    let tokens : List Token :=
      [⟨.number, "1", 1, 1, 0⟩, ⟨.operator, "+", 1, 2, 0⟩, ⟨.identifier, "x", 1, 3, 0⟩,
        ⟨.operator, "-", 1, 4, 0⟩, ⟨.number, "2", 1, 5, 0⟩, ⟨.operator, "*", 1, 6, 0⟩,
        ⟨.identifier, "y", 1, 7, 0⟩]
    t.Respects table ∧ tokens.map Token.symbol = t.reading ∧
      (∀ policy, parseComplete ⟨table, policy⟩ tokens = ⟨.ok (some t), tokens.length⟩) ∧
      (∀ policy, Parser.parsed (Parser.new ⟨table, policy⟩ ⟨tokens⟩).parseComplete =
        ⟨.ok (some t), tokens.length⟩) ∧
      ∀ t' : Tree, t'.Respects table → t'.reading = t.reading → t' = t := by
  intro table t tokens
  have ht : t.Respects table := by decide
  have written : tokens.map Token.symbol = t.reading := by decide
  have bytes : table.All (· ≤ 254) :=
    ((PrecedenceTable.all_empty.insert _ (by decide)).insert _ (by decide)).insert _ (by decide)
  obtain ⟨whole, parsed, unique⟩ := parseComplete_of_reading ht written
  exact ⟨ht, written, whole, parsed bytes, unique⟩

end GovernedExpr
