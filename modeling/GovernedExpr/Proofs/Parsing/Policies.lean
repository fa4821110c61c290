import GovernedExpr.Proofs.Parsing.Cursor

/-!
# The two policies for a missing operand

Reporting a missing operand and stopping in front of its operator are one run with two endings.

* `Climb.reported` is the ending where the operand is reported, by the one where the run stops;
  `Climbs.reported` says that the runs agree up to it;
* `Climbs.exists_read` says that a run only looks one token ahead: what it has read is read to the
  same tree in front of any tokens that end the loop, and under either policy;
* `parseComplete_take` is that fact about whole parses: the tokens that were read are read again,
  to their end;
* `parse_truncate` compares the parser under the two policies, error by error.
-/

namespace GovernedExpr

variable {p : ParserSettings} {table : PrecedenceTable} {minLevel k : Nat} {left t : Tree}
  {tokens rest : List Token} {halted : Bool} {c : Climb}

/-! ### One run with two endings -/

/-- A run that stopped in front of an operator, as one that reports its missing operand. -/
def Climb.reported : Climb → Climb
  | .tree _ (operator :: rest) true => .missing operator rest
  | c => c

@[simp] theorem Climb.reported_false : (Climb.tree t rest false).reported = .tree t rest false := by
  cases rest <;> rfl

/-- **Reporting is stopping** with an error in the place of the tree. -/
theorem Climbs.reported (h : Climbs ⟨table, .truncate⟩ minLevel left tokens c) :
    Climbs ⟨table, .reject⟩ minLevel left tokens c.reported := by
  induction h with
  | stop ends =>
    rw [Climb.reported_false]
    exact .stop ends
  | dangling configured binds bare => exact .dangling configured binds bare
  | missing configured binds operand _ ih => exact .missing configured binds operand ih
  | halted configured binds operand right ih =>
    -- the right side has stopped in front of the operator that dangles
    obtain ⟨-, stuck, after, _, rfl, -⟩ := right.final
    exact .missing configured binds operand ih
  | fold configured binds operand _ _ ih ihnext =>
    rw [Climb.reported_false] at ih
    exact .fold configured binds operand ih ihnext

theorem climb_reject (table : PrecedenceTable) (minLevel : Nat) (left : Tree)
    (tokens : List Token) : climb ⟨table, .reject⟩ minLevel left tokens =
      (climb ⟨table, .truncate⟩ minLevel left tokens).reported :=
  (climbs_climb ⟨table, .truncate⟩ minLevel left tokens).reported.climb_eq

/-! ### A run looks one token ahead -/

theorem PrecedenceTable.Ends.mono {m n : Nat} (h : table.Ends m tokens) (hle : m ≤ n) :
    table.Ends n tokens :=
  fun operator hop level hl => Nat.lt_of_lt_of_le (h operator hop level hl) hle

/-- Whether tokens end a loop is said by the first of them. -/
theorem PrecedenceTable.Ends.append {before after : List Token}
    (h : table.Ends minLevel (before ++ rest)) (h' : table.Ends minLevel after) :
    table.Ends minLevel (before ++ after) := by
  cases before with
  | nil => exact h'
  | cons _ _ => exact h

/-- **What a run has read does not depend on what follows**: in front of tokens that end the loop
it is read to the same tree, under either policy. -/
theorem Climbs.exists_read (h : Climbs p minLevel left tokens (.tree t rest halted)) :
    ∃ read, tokens = read ++ rest ∧ ∀ policy after, p.levels.Ends minLevel after →
      Climbs ⟨p.levels, policy⟩ minLevel left (read ++ after) (.tree t after false) := by
  generalize hc : Climb.tree t rest halted = c at h
  induction h generalizing t rest halted with
  | stop _ =>
    cases hc
    exact ⟨[], rfl, fun _ _ ends => .stop ends⟩
  | @dangling _ _ left operator others _ _ _ =>
    obtain ⟨-, hd⟩ | ⟨-, hd⟩ := p.dangling_eq left operator others <;> rw [hd] at hc <;> cases hc
    exact ⟨[], rfl, fun _ _ ends => .stop ends⟩
  | missing _ _ _ _ _ => cases hc
  | halted configured binds operand _ ih =>
    cases hc
    obtain ⟨read, rfl, reads⟩ := ih rfl
    refine ⟨_ :: _ :: read, rfl, fun policy after ends => ?_⟩
    exact .fold configured binds operand
      (reads policy after (ends.mono (Nat.le_succ_of_le binds))) (.stop ends)
  | @fold _ _ _ _ _ operator first _ _ _ configured binds operand right _ ih ihnext =>
    obtain ⟨read, rfl, reads⟩ := ih rfl
    obtain ⟨next, rfl, nextReads⟩ := ihnext hc
    refine ⟨operator :: first :: (read ++ next), ?_, fun policy after ends => ?_⟩
    · rw [List.cons_append, List.cons_append, List.append_assoc]
    -- the right side ends where the loop goes on, or where the loop ends
    · have rightEnds := PrecedenceTable.Ends.append right.final
        (ends.mono (Nat.le_succ_of_le binds))
      rw [List.cons_append, List.cons_append, List.append_assoc]
      exact .fold configured binds operand (reads policy _ rightEnds) (nextReads policy after ends)

/-! ### Parsing again -/

/-- The tokens that were read are read again to the same tree and to their end, under either
policy. -/
theorem parseComplete_take (h : parse p tokens = ⟨.ok (some t), k⟩) (policy : MissingOperand) :
    parseComplete ⟨p.levels, policy⟩ (tokens.take k) = ⟨.ok (some t), k⟩ := by
  have outcome : (parse p tokens).outcome = .ok (some t) := by rw [h]
  obtain ⟨first, tail, leaf, rest, halted, rfl, operand, run, position⟩ :=
    exists_climbs_of_parse outcome
  obtain ⟨read, rfl, reads⟩ := run.exists_read
  obtain rfl : k = (first :: read).length := by
    rw [h, ← List.cons_append, List.length_append, Nat.add_sub_cancel] at position
    exact position
  have taken : (first :: (read ++ rest)).take (first :: read).length = first :: read :=
    List.take_left' rfl
  have again := reads policy [] (by rintro _ ⟨⟩)
  rw [List.append_nil] at again
  rw [taken, parseComplete, parse_of_expression (expression_cons operand), again.climb_eq]
  simp [Climb.parsed]

/-! ### Errors and what stands for them -/

/-- The tokens of a stream are numbered from one. -/
theorem TokenStream.column_of_getElem? {ts : List Token} {x : Token}
    (h : (ofList ts).tokens[k]? = some x) : x.column = k + 1 := by
  rw [ofList, List.getElem?_mapIdx] at h
  obtain ⟨y, -, rfl⟩ := Option.map_eq_some_iff.1 h
  rfl

/-- The parses of some tokens under the two policies: they agree, or an operator dangles, or no
operand stands first. -/
theorem parse_policies (table : PrecedenceTable) (tokens : List Token) :
    (∃ root k, ∀ policy, parse ⟨table, policy⟩ tokens = ⟨.ok root, k⟩) ∨
    (∃ operator t k, tokens[k]? = some operator ∧
      parse ⟨table, .reject⟩ tokens =
        ⟨.error (.missingOperand operator.value operator.column), k + 1⟩ ∧
      parse ⟨table, .truncate⟩ tokens = ⟨.ok (some t), k⟩) ∨
    (∃ first, tokens[0]? = some first ∧
      parse ⟨table, .reject⟩ tokens =
        ⟨.error (.expectedOperand first.value first.kind first.column), 0⟩ ∧
      parse ⟨table, .truncate⟩ tokens = ⟨.ok none, 0⟩) := by
  cases tokens with
  | nil => exact .inl ⟨none, 0, fun _ => rfl⟩
  | cons first tail =>
    cases operand : first.operand? with
    | none =>
      exact .inr (.inr ⟨first, rfl, parse_of_operand?_eq_none operand,
        parse_of_operand?_eq_none operand⟩)
    | some leaf =>
      have run := climbs_climb ⟨table, .truncate⟩ 0 leaf tail
      have parses : ∀ policy, parse ⟨table, policy⟩ (first :: tail) =
          (climb ⟨table, policy⟩ 0 leaf tail).parsed (first :: tail).length :=
        fun _ => parse_of_expression (expression_cons operand)
      have reject := parses .reject
      have truncate := parses .truncate
      rw [climb_reject] at reject
      generalize climb ⟨table, .truncate⟩ 0 leaf tail = c at run reject truncate
      cases c with
      | missing operator after => cases run.final.1
      | tree t rest halted =>
        cases halted with
        | false =>
          rw [Climb.reported_false] at reject
          refine .inl ⟨some t, (first :: tail).length - rest.length, fun policy => ?_⟩
          cases policy with
          | reject => exact reject
          | truncate => exact truncate
        | true =>
          -- the run has stopped in front of the operator that dangles
          obtain ⟨-, operator, after, _, rfl, -⟩ := run.final
          obtain ⟨read, rfl⟩ := run.suffix
          have length : (first :: (read ++ operator :: after)).length =
              (first :: read).length + (operator :: after).length := by
            rw [← List.cons_append, List.length_append]
          refine .inr (.inl ⟨operator, t, (first :: read).length, ?_, ?_, ?_⟩)
          · rw [← List.cons_append, Climb.rest, List.getElem?_append_right (Nat.le_refl _)]
            simp
          · rw [reject, Climb.reported, Climb.rest, length, List.length_cons (a := operator),
              ← Nat.add_assoc, Nat.add_right_comm, Climb.parsed_missing]
          · rw [truncate, Climb.rest, length, Climb.parsed_tree]

/-- **The two policies are one parser, up to the operator that dangles.**  Where missing operands
are reported and none is missing, the parses agree.  Where an operand is missing, the parse that
stops in front of the operator gives the tree of the tokens before it; where none stands first, it
gives no tree.  So stopping never fails, and the tokens that are read to their end are the same
under both policies. -/
theorem parse_truncate (bytes : table.All (· ≤ 254)) (ts : List Token) :
    let s := TokenStream.ofList ts
    let rejecting := Parser.new ⟨table, .reject⟩
    let truncating := Parser.new ⟨table, .truncate⟩
    (∀ root k, Parser.parsed (rejecting s).parse = ⟨.ok root, k⟩ →
      Parser.parsed (truncating s).parse = ⟨.ok root, k⟩) ∧
    (∀ operator column k,
      Parser.parsed (rejecting s).parse = ⟨.error (.missingOperand operator column), k⟩ →
        ∃ t, Parser.parsed (rejecting ⟨s.tokens.take (column - 1)⟩).parseComplete =
            ⟨.ok (some t), column - 1⟩ ∧
          Parser.parsed (truncating s).parse = ⟨.ok (some t), column - 1⟩) ∧
    (∀ found kind column k,
      Parser.parsed (rejecting s).parse = ⟨.error (.expectedOperand found kind column), k⟩ →
        Parser.parsed (truncating s).parse = ⟨.ok none, 0⟩) ∧
    (∃ root k, Parser.parsed (truncating s).parse = ⟨.ok root, k⟩) ∧
    ∀ root k, Parser.parsed (rejecting s).parseComplete = ⟨.ok root, k⟩ ↔
      Parser.parsed (truncating s).parseComplete = ⟨.ok root, k⟩ := by
  intro s rejecting truncating
  have parses : ∀ policy (s : TokenStream),
      Parser.parsed (Parser.new ⟨table, policy⟩ s).parse = parse ⟨table, policy⟩ s.tokens :=
    fun _ _ => Parser.parsed_parse bytes
  have completes : ∀ policy (s : TokenStream),
      Parser.parsed (Parser.new ⟨table, policy⟩ s).parseComplete =
        parseComplete ⟨table, policy⟩ s.tokens :=
    fun _ _ => Parser.parsed_parseComplete bytes
  simp only [rejecting, truncating, parses, completes]
  obtain ⟨root, k, same⟩ | ⟨operator, t, k, stands, reject, truncate⟩ |
    ⟨first, stands, reject, truncate⟩ := parse_policies table s.tokens
  · simp only [parseComplete, same]
    refine ⟨fun _ _ h => h, ?_, ?_, ⟨root, k, rfl⟩, fun _ _ => trivial⟩
    · rintro _ _ _ ⟨⟩
    · rintro _ _ _ _ ⟨⟩
  · simp only [reject, truncate]
    refine ⟨?_, ?_, ?_, ⟨some t, k, rfl⟩, ?_⟩
    · rintro _ _ ⟨⟩
    · rintro _ _ _ ⟨⟩
      rw [TokenStream.column_of_getElem? stands]
      exact ⟨t, parseComplete_take truncate .reject, rfl⟩
    · rintro _ _ _ _ ⟨⟩
    · intro root' k'
      simp [parseComplete, reject, truncate, stands]
  · simp only [reject, truncate]
    refine ⟨?_, ?_, ?_, ⟨none, 0, rfl⟩, ?_⟩
    · rintro _ _ ⟨⟩
    · rintro _ _ _ ⟨⟩
    · exact fun _ _ _ _ _ => trivial
    · intro root' k'
      simp [parseComplete, reject, truncate, stands]

/-- Three operators deep, an operand is missing behind the last of them. -/
theorem parse_truncate_nested :
    let table := ((PrecedenceTable.empty.insert "+" 0).insert "*" 20).insert "^" 254
    let s : TokenStream := .ofList [⟨.identifier, "a", 1, 0, 0⟩, ⟨.operator, "+", 1, 0, 0⟩,
      ⟨.identifier, "b", 1, 0, 0⟩, ⟨.operator, "*", 1, 0, 0⟩, ⟨.identifier, "c", 1, 0, 0⟩,
      ⟨.operator, "^", 1, 0, 0⟩, ⟨.unknown, "?", 1, 0, 0⟩]
    let rejecting := Parser.new ⟨table, .reject⟩
    let truncating := Parser.new ⟨table, .truncate⟩
    table.All (· ≤ 254) ∧
      Parser.parsed (rejecting s).parse = ⟨.error (.missingOperand "^" 6), 6⟩ ∧
      (∃ t, Parser.parsed (rejecting ⟨s.tokens.take 5⟩).parseComplete = ⟨.ok (some t), 5⟩ ∧
        Parser.parsed (truncating s).parse = ⟨.ok (some t), 5⟩) := by
  intro table s rejecting truncating
  have bytes : table.All (· ≤ 254) :=
    ((PrecedenceTable.all_empty.insert _ (by decide)).insert _ (by decide)).insert _ (by decide)
  have run : expression ⟨table, .reject⟩ 0 s.tokens =
      some (.missing ⟨.operator, "^", 1, 6, 0⟩ [⟨.unknown, "?", 1, 7, 0⟩]) := by decide +kernel
  have missing : Parser.parsed (rejecting s).parse = ⟨.error (.missingOperand "^" 6), 6⟩ :=
    (Parser.parsed_parse bytes).trans (parse_of_expression run)
  exact ⟨bytes, missing, (parse_truncate bytes _).2.1 _ _ _ missing⟩

end GovernedExpr
