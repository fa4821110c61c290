import GovernedExpr.Proofs.Parsing.Alternation
import GovernedExpr.Proofs.Parsing.Policies

/-!
# What a minimum level means

An expression at a minimum level ends in front of the first operator that is lower, and up to there
the minimum level makes no difference.  So it is an expression at the lowest level, read from tokens
that are cut in front of that operator.

* `PrecedenceTable.runLevels` lists the levels of the operators in the alternation that some tokens
  start with; `PrecedenceTable.getElem?_runLevels_eq_some_iff` says which operators these are;
* `PrecedenceTable.cutBelow` cuts tokens in front of the first of them below a level;
* `expression_eq_zero` says that a minimum level below all these operators makes no difference, and
  `Climbs.append` that a run does not see tokens behind its own ones if they end its loop;
* `Parser.expression_eq_lowest` compares the two readings of a parser: at a minimum level, and at the
  lowest one on the stream that is cut.
-/

namespace GovernedExpr

open LevelNumber

variable {p : ParserSettings} {table : PrecedenceTable} {m n k level : Nat} {left leaf : Tree}
  {tokens run rest more : List Token} {first operator : Token} {c : Climb}

/-! ### The operators of an alternation -/

namespace PrecedenceTable

/-- The levels of the operators in the alternation of operands and operators that the tokens start
with.  An operand stands in front of each of them, and behind the last one there may be none. -/
def runLevels (table : PrecedenceTable) : List Token → List Nat
  | operand :: operator :: rest =>
    match operand.operand?, table.levelOf? operator with
    | some _, some level => level :: table.runLevels rest
    | _, _ => []
  | _ => []

/-- The tokens in front of the first operator of the alternation that is below a level; all of them,
if there is none. -/
def cutBelow (table : PrecedenceTable) (minLevel : Nat) (tokens : List Token) : List Token :=
  match (table.runLevels tokens).findIdx? (· < minLevel) with
  | some n => tokens.take (2 * n + 1)
  | none => tokens

/-- The tokens start with an alternation of so many operators, and behind it stands one of a level. -/
def HasOperator (table : PrecedenceTable) (n level : Nat) (tokens : List Token) : Prop :=
  ∃ run operator rest, tokens = run ++ operator :: rest ∧ table.Alternates n run ∧
    table.levelOf? operator = some level

theorem Pairs.alternates (pairs : table.Pairs n run) (operand : first.operand? = some leaf) :
    table.Alternates n (first :: run) :=
  ⟨first, run, rfl, Token.isOperand_iff.2 ⟨leaf, operand⟩, pairs⟩

theorem runLevels_cons_cons (operand : first.operand? = some leaf)
    (configured : table.levelOf? operator = some level) (rest : List Token) :
    table.runLevels (first :: operator :: rest) = level :: table.runLevels rest := by
  rw [runLevels, operand, configured]

theorem hasOperator_of_getElem? (h : (table.runLevels tokens)[n]? = some level) :
    table.HasOperator n level tokens := by
  fun_induction runLevels table tokens generalizing n with
  | case1 first operator rest leaf l configured operand ih =>
    have one : table.Alternates 0 [first] := Pairs.nil.alternates operand
    cases n with
    | zero =>
      cases h
      exact ⟨[first], operator, rest, rfl, one, configured⟩
    | succ n =>
      obtain ⟨run, other, after, rfl, alternates, found⟩ := ih h
      have longer := one.append (configures_iff.2 ⟨l, configured⟩) alternates
      rw [Nat.zero_add] at longer
      exact ⟨first :: operator :: run, other, after, rfl, longer, found⟩
  | case2 => cases h
  | case3 => cases h

theorem Pairs.getElem?_runLevels (pairs : table.Pairs n run) (operand : first.operand? = some leaf)
    (configured : table.levelOf? operator = some level) :
    (table.runLevels (first :: run ++ operator :: rest))[n]? = some level := by
  induction pairs generalizing first leaf with
  | nil =>
    rw [List.singleton_append, runLevels_cons_cons operand configured]
    rfl
  | cons configured' isOperand _ ih =>
    obtain ⟨_, inner⟩ := configures_iff.1 configured'
    obtain ⟨_, operand'⟩ := Token.isOperand_iff.1 isOperand
    rw [List.cons_append, List.cons_append, runLevels_cons_cons operand inner,
      List.getElem?_cons_succ]
    exact ih operand'

/-- **The levels of an alternation are those of the operators behind its starts.** -/
theorem getElem?_runLevels_eq_some_iff :
    (table.runLevels tokens)[n]? = some level ↔ table.HasOperator n level tokens := by
  refine ⟨hasOperator_of_getElem?, ?_⟩
  rintro ⟨_, operator, rest, rfl, ⟨first, run, rfl, isOperand, pairs⟩, configured⟩
  obtain ⟨_, operand⟩ := Token.isOperand_iff.1 isOperand
  exact pairs.getElem?_runLevels operand configured

theorem HasOperator.append (h : table.HasOperator n level run) (more : List Token) :
    table.HasOperator n level (run ++ more) := by
  obtain ⟨start, operator, rest, rfl, alternates, configured⟩ := h
  exact ⟨start, operator, rest ++ more, by simp, alternates, configured⟩

/-- An alternation has fewer operators in it than behind it. -/
theorem HasOperator.lt (h : table.HasOperator n level run) (alternates : table.Alternates k run) :
    n < k := by
  obtain ⟨start, operator, rest, rfl, alternates', -⟩ := h
  have length := alternates.length
  rw [List.length_append, alternates'.length, List.length_cons] at length
  omega

/-- **Where tokens are cut**: nowhere, if no operator of their alternation is below the level, and else
in front of one that is below the level and behind no other such. -/
theorem cutBelow_cases (table : PrecedenceTable) (minLevel : Nat) (tokens : List Token) :
    (table.cutBelow minLevel tokens = tokens ∧
      ∀ n level, table.HasOperator n level tokens → minLevel ≤ level) ∨
    ∃ n operator rest level, tokens = table.cutBelow minLevel tokens ++ operator :: rest ∧
      table.Alternates n (table.cutBelow minLevel tokens) ∧
      table.levelOf? operator = some level ∧ level < minLevel ∧
      ∀ k < n, ∀ level, table.HasOperator k level tokens → minLevel ≤ level := by
  unfold cutBelow
  cases found : (table.runLevels tokens).findIdx? (· < minLevel) with
  | none =>
    refine .inl ⟨rfl, fun n level has => ?_⟩
    have listed := List.mem_of_getElem? (getElem?_runLevels_eq_some_iff.2 has)
    simpa using List.findIdx?_eq_none_iff.1 found level listed
  | some n =>
    obtain ⟨inside, low, earlier⟩ := List.findIdx?_eq_some_iff_getElem.1 found
    obtain ⟨run, operator, rest, rfl, alternates, configured⟩ :=
      getElem?_runLevels_eq_some_iff.1 (List.getElem?_eq_getElem inside)
    -- an alternation of `n` operators has `2 * n + 1` tokens, so it is what is left
    have cut : (run ++ operator :: rest).take (2 * n + 1) = run := List.take_left' alternates.length
    simp only [cut]
    refine .inr ⟨n, operator, rest, _, rfl, alternates, configured, of_decide_eq_true low,
      fun k hk level has => ?_⟩
    obtain ⟨_, rfl⟩ := List.getElem?_eq_some_iff.1 (getElem?_runLevels_eq_some_iff.2 has)
    simpa using earlier k hk

/-- What is cut off ends every loop of the minimum level, and no operator that is left does. -/
theorem exists_cut (table : PrecedenceTable) (minLevel : Nat) (tokens : List Token) :
    ∃ more, tokens = table.cutBelow minLevel tokens ++ more ∧ table.Ends minLevel more ∧
      NoOperandFirst more ∧
      ∀ n level, table.HasOperator n level (table.cutBelow minLevel tokens) → minLevel ≤ level := by
  obtain ⟨uncut, high⟩ | ⟨n, operator, rest, level, heq, alternates, configured, low, earlier⟩ :=
    table.cutBelow_cases minLevel tokens
  · exact ⟨[], by rw [uncut, List.append_nil], by rintro _ ⟨⟩, by rintro _ ⟨⟩, by rwa [uncut]⟩
  · refine ⟨operator :: rest, heq, ?_, ?_, fun k l has => ?_⟩
    · rintro _ ⟨⟩ l hl
      rw [configured] at hl
      cases hl
      exact low
    · rintro _ ⟨⟩
      obtain ⟨kind, -⟩ := levelOf?_eq_some_iff.1 configured
      rw [Token.operand?, kind]
    · refine earlier k (has.lt alternates) l ?_
      rw [heq]
      exact has.append _

end PrecedenceTable

/-! ### Minimum levels that make no difference -/

/-- An operator that a run leaves next is one of the alternation. -/
theorem Climbs.exists_hasOperator (h : Climbs p m left rest c) (operand : first.operand? = some leaf)
    (next : c.unread.head? = some operator) (configured : p.levels.levelOf? operator = some level) :
    ∃ n, p.levels.HasOperator n level (first :: rest) := by
  obtain ⟨n, read, pairs, rfl⟩ := h.exists_pairs
  obtain ⟨behind, unread⟩ := List.head?_eq_some_iff.1 next
  rw [unread]
  exact ⟨n, first :: read, operator, behind, rfl, pairs.alternates operand, configured⟩

/-- If no operator of the alternation is below the minimum level, the expression is that at the lowest
level. -/
theorem expression_eq_zero
    (high : ∀ n level, p.levels.HasOperator n level tokens → m ≤ level) :
    expression p m tokens = expression p 0 tokens := by
  cases tokens with
  | nil => rfl
  | cons first rest =>
    cases operand : first.operand? with
    | none => simp [expression, operand]
    | some leaf =>
      rw [expression_cons operand, expression_cons operand, climb_eq_resume (Nat.zero_le m)]
      have run := climbs_climb p m leaf rest
      cases hc : climb p m leaf rest with
      | missing operator after => rfl
      | tree t after halted =>
        cases halted with
        | true => rfl
        | false =>
          -- a lower operator that stops the loop would be one of the alternation
          rw [hc] at run
          have ends : p.levels.Ends 0 after := by
            intro operator next level configured
            have low : level < m := run.final operator next level configured
            obtain ⟨n, has⟩ := run.exists_hasOperator operand next configured
            exact absurd low (Nat.not_lt.2 (high n level has))
          rw [Climb.resume, climb_of_ends ends]

/-! ### Tokens behind a run -/

/-- A climb that has more tokens behind those that it leaves. -/
def Climb.append (more : List Token) : Climb → Climb
  | .tree t rest halted => .tree t (rest ++ more) halted
  | .missing operator rest => .missing operator (rest ++ more)

theorem ParserSettings.dangling_append (p : ParserSettings) (left : Tree) (operator : Token)
    (rest more : List Token) :
    p.dangling left operator (rest ++ more) = (p.dangling left operator rest).append more := by
  unfold dangling
  cases p.missingOperand <;> rfl

theorem NoOperandFirst.append (h : NoOperandFirst tokens) (h' : NoOperandFirst more) :
    NoOperandFirst (tokens ++ more) := by
  cases tokens with
  | nil => exact h'
  | cons _ _ => exact h

/-- **A run does not see tokens behind its own** if these end its loop and are no operand for it. -/
theorem Climbs.append (h : Climbs p m left tokens c) (ends : p.levels.Ends m more)
    (bare : NoOperandFirst more) : Climbs p m left (tokens ++ more) (c.append more) := by
  -- the minimum level grows from each loop to the one inside of it, so the tokens end all of them
  induction h with
  | @stop m _ tokens stops =>
    have stops' : p.levels.Ends m (tokens ++ []) := by rwa [List.append_nil]
    exact .stop (stops'.append ends)
  | dangling configured binds bare' =>
    rw [List.cons_append, ← ParserSettings.dangling_append]
    exact .dangling configured binds (bare'.append bare)
  | missing configured binds operand _ ih =>
    exact .missing configured binds operand (ih (ends.mono (Nat.le_succ_of_le binds)))
  | halted configured binds operand _ ih =>
    exact .halted configured binds operand (ih (ends.mono (Nat.le_succ_of_le binds)))
  | fold configured binds operand _ _ ih ihnext =>
    exact .fold configured binds operand (ih (ends.mono (Nat.le_succ_of_le binds))) (ihnext ends)

theorem expression_append_of_ends (tokens : List Token) (ends : p.levels.Ends m more)
    (bare : NoOperandFirst more) :
    expression p m (tokens ++ more) = (expression p m tokens).map (Climb.append more) := by
  cases tokens with
  | nil => exact expression_eq_none_iff.2 bare
  | cons first rest =>
    cases operand : first.operand? with
    | none => simp [expression, operand]
    | some leaf =>
      have run := (climbs_climb p m leaf rest).append ends bare
      rw [List.cons_append, expression_cons operand, expression_cons operand, run.climb_eq]
      rfl

/-- **A minimum level cuts the tokens**: the expression is that at the lowest level, read from the
tokens that are left. -/
theorem exists_expression_eq (p : ParserSettings) (m : Nat) (tokens : List Token) :
    ∃ more, tokens = p.levels.cutBelow m tokens ++ more ∧
      expression p m tokens =
        (expression p 0 (p.levels.cutBelow m tokens)).map (Climb.append more) := by
  obtain ⟨more, heq, ends, bare, high⟩ := p.levels.exists_cut m tokens
  refine ⟨more, heq, ?_⟩
  rw [← expression_eq_zero high, ← expression_append_of_ends _ ends bare, ← heq]

/-! ### The two readings of a parser -/

/-- On a stream with more tokens at its end, a climb leaves the cursor where it is left without them. -/
theorem Climb.leave_append (p : ParserSettings) (c : Climb) (all more : List Token) :
    (c.append more).leave p (all ++ more) =
      ((c.leave p all).1, { (c.leave p all).2 with tokens := all ++ more }) := by
  cases c <;> simp [leave, append, Parser.inFrontOf, Nat.add_sub_add_right]

namespace Parser

/-- The parser with its stream cut in front of the first operator below a level, of the alternation
that starts under the cursor. -/
def cutBelow (r : Parser) (minLevel : Nat) : Parser :=
  { r with
    tokens := r.tokens.take r.position ++
      r.settings.levels.cutBelow minLevel (r.tokens.drop r.position) }

theorem inFrontOf_drop {position : Nat} (inside : position ≤ tokens.length) (halted : Bool) :
    inFrontOf p tokens (tokens.drop position) halted = ⟨p, tokens, position, halted⟩ := by
  rw [inFrontOf, List.length_drop, Nat.sub_sub_self inside]

theorem inFrontOf_append (read rest : List Token) (halted : Bool) :
    inFrontOf p (read ++ rest) rest halted = ⟨p, read ++ rest, read.length, halted⟩ := by
  rw [inFrontOf, List.length_append, Nat.add_sub_cancel]

/-- Behind the end of the stream there is no expression. -/
theorem expression_of_length_le {α : Type} [LevelNumber α] {r : Parser}
    (outside : r.tokens.length ≤ r.position) (minLevel : α) :
    r.expression minLevel = (.ok none, r) := by
  rw [expression, operand?, current?, List.getElem?_eq_none outside]
  rfl

/-- **What a minimum level means.**  Reading an expression at a minimum level gives the same tree or
error as reading it at the lowest level from the stream that is cut in front of the first operator below
the minimum level, of the alternation that starts under the cursor.  Both leave the cursor in the same
place, and both have halted or neither has. -/
theorem expression_eq_lowest (r : Parser) (minLevel : UInt8)
    (bytes : r.settings.levels.All (· ≤ 254)) (running : r.halted = false) :
    let cut := (r.cutBelow minLevel.toNat).expression (0 : UInt8)
    r.expression minLevel = (cut.1, { cut.2 with tokens := r.tokens }) := by
  obtain ⟨p, tokens, position, halted⟩ := r
  obtain rfl : halted = false := running
  obtain ⟨more, unread, read⟩ := exists_expression_eq p minLevel.toNat (tokens.drop position)
  rw [cutBelow]
  dsimp only at bytes ⊢
  generalize p.levels.cutBelow minLevel.toNat (tokens.drop position) = front at unread read ⊢
  have whole : tokens.take position ++ front ++ more = tokens := by
    rw [List.append_assoc, ← unread, List.take_append_drop]
  by_cases inside : position ≤ tokens.length
  · -- on both streams the cursor stands in front of the same tokens, but for those cut off at the end
    have counts := counts_byte bytes
    have least : StandsFor p.levels (0 : UInt8) 0 := standsFor_byte bytes 0
    have full := expression_inFrontOf counts (standsFor_byte bytes minLevel)
      (List.drop_suffix position tokens)
    have cut := expression_inFrontOf counts least (List.suffix_append (tokens.take position) front)
    rw [inFrontOf_drop inside, read] at full
    rw [inFrontOf_append, List.length_take_of_le inside] at cut
    rw [full, cut]
    cases GovernedExpr.expression p 0 front with
    | none => rfl
    | some c =>
      have leave := c.leave_append p (tokens.take position ++ front) more
      rw [whole] at leave
      simp only [Option.map_some, leave]
  · have outside : tokens.length ≤ position := Nat.le_of_not_le inside
    rw [List.drop_eq_nil_of_le outside] at unread
    obtain ⟨rfl, -⟩ := List.append_eq_nil_iff.1 unread.symm
    rw [List.append_nil, List.take_of_length_le outside, expression_of_length_le outside,
      expression_of_length_le outside]

/-- In front of a sum, at the level of products, the stream is cut; in front of an operator without
operand, at its own level, it is not, and both readings halt there. -/
theorem expression_eq_lowest_sum :
    let table := ((PrecedenceTable.empty.insert "+" 0).insert "*" 20).insert "^" 254
    let s : TokenStream := .ofList [⟨.unknown, "?", 1, 0, 0⟩, ⟨.identifier, "a", 1, 0, 0⟩,
      ⟨.operator, "*", 1, 0, 0⟩, ⟨.identifier, "b", 1, 0, 0⟩, ⟨.operator, "^", 1, 0, 0⟩,
      ⟨.identifier, "c", 1, 0, 0⟩, ⟨.operator, "+", 1, 0, 0⟩, ⟨.identifier, "d", 1, 0, 0⟩,
      ⟨.operator, "^", 1, 0, 0⟩]
    let r : Parser := ⟨⟨table, .truncate⟩, s.tokens, 1, false⟩
    let last : Parser := ⟨⟨table, .truncate⟩, s.tokens, 7, false⟩
    (table.All (· ≤ 254) ∧ r.halted = false ∧ last.halted = false) ∧
      ((r.cutBelow 20).tokens = s.tokens.take 6 ∧
        (r.expression (20 : UInt8)).1.toOption = some (some (.binary "*" (.identifier "a")
          (.binary "^" (.identifier "b") (.identifier "c")))) ∧
        let cut := (r.cutBelow 20).expression (0 : UInt8)
        r.expression (20 : UInt8) = (cut.1, { cut.2 with tokens := r.tokens })) ∧
      last.cutBelow 254 = last ∧ (last.expression (254 : UInt8)).2 =
          ⟨⟨table, .truncate⟩, s.tokens, 8, true⟩ ∧
        let cut := (last.cutBelow 254).expression (0 : UInt8)
        last.expression (254 : UInt8) = (cut.1, { cut.2 with tokens := last.tokens }) := by
  intro table s r last
  have bytes : table.All (· ≤ 254) :=
    ((PrecedenceTable.all_empty.insert _ (by decide)).insert _ (by decide)).insert _ (by decide)
  exact ⟨⟨bytes, rfl, rfl⟩,
    ⟨by decide +kernel, by decide +kernel, expression_eq_lowest r 20 bytes rfl⟩,
    by decide +kernel, by decide +kernel, expression_eq_lowest last 254 bytes rfl⟩

end Parser

end GovernedExpr
