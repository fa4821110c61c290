import Mathlib.Computability.Language
import GovernedExpr.Proofs.Parsing.Alternation

/-!
# The grammar of arithmetic

With the table of arithmetic, climbing reads the grammar

    expression := term ( ('+' | '-') term )*
    term       := factor ( ('*' | '/') factor )*
    factor     := IDENTIFIER | NUMBER

* `Descent.Reader` is a reader of recursive descent; `Descent.Reader.chain` repeats an operand
  behind operators and folds to the left, and `Descent.factor`, `Descent.term` and
  `Descent.expression` are the readers of the three rules;
* `chain_eq_expression` says that a chain of the grammar is a level of the table, whatever the
  table is;
* `Grammar.expression` is the language of the grammar;
* `parse_arithmetic` says that climbing and descent come to the same for all tokens, and that
  the tokens of the language are those which are read completely.
-/

namespace GovernedExpr

open scoped Computability

variable {p : ParserSettings} {minLevel level n k : Nat} {left t : Tree}
  {tokens rest : List Token} {symbols : List String}

/-- The token is one of the given operator symbols. -/
def Token.IsOneOf (symbols : List String) (t : Token) : Prop :=
  t.kind = .operator ∧ t.value ∈ symbols

instance (symbols : List String) (t : Token) : Decidable (t.IsOneOf symbols) :=
  inferInstanceAs (Decidable (_ ∧ _))

/-! ### Recursive descent -/

namespace Descent

/-- What a reader comes to, with the tokens after it. -/
inductive Reading
  /-- A tree. -/
  | tree (t : Tree) (rest : List Token)
  /-- An operator with no operand behind it. -/
  | missing (operator : Token) (rest : List Token)

/-- The tokens that were not read. -/
def Reading.remaining : Reading → List Token
  | tree _ rest => rest
  | missing _ rest => rest

/-- A reader of the start of some tokens.  It may find nothing to read there; otherwise it takes
at least one token. -/
structure Reader where
  read : List Token → Option Reading
  shortens : ∀ tokens, ∀ r ∈ read tokens, r.remaining.length < tokens.length

/-- `factor := IDENTIFIER | NUMBER` -/
def factor : Reader where
  read
    | [] => none
    | t :: rest =>
      match t.kind with
      | .identifier => some (.tree (.identifier t.value) rest)
      | .number => some (.tree (.number t.value) rest)
      | _ => none
  shortens := by
    intro tokens r hr
    cases tokens with
    | nil => cases hr
    | cons t rest =>
      simp only at hr
      split at hr <;> cases hr <;> exact Nat.lt_succ_self _

namespace Reader

/-- `( symbol operand )*` behind a left operand, folded to the left. -/
def fold (operand : Reader) (symbols : List String) (left : Tree) : List Token → Reading
  | [] => .tree left []
  | operator :: rest =>
    if operator.IsOneOf symbols then
      match _h : operand.read rest with
      | none => .missing operator rest
      | some (.missing stuck after) => .missing stuck after
      | some (.tree right after) => operand.fold symbols (.binary operator.value left right) after
    else .tree left (operator :: rest)
  termination_by tokens => tokens.length
  decreasing_by
    have := operand.shortens rest _ _h
    simp only [Reading.remaining, List.length_cons] at *
    omega

theorem fold_cons {operator : Token} (operand : Reader) (left : Tree) (rest : List Token)
    (h : operator.IsOneOf symbols) :
    operand.fold symbols left (operator :: rest) =
      match operand.read rest with
      | none => .missing operator rest
      | some (.missing stuck after) => .missing stuck after
      | some (.tree right after) =>
        operand.fold symbols (.binary operator.value left right) after := by
  rw [fold, if_pos h]
  split <;> simp_all

theorem fold_of_not {operator : Token} (operand : Reader) (left : Tree) (rest : List Token)
    (h : ¬ operator.IsOneOf symbols) :
    operand.fold symbols left (operator :: rest) = .tree left (operator :: rest) := by
  rw [fold, if_neg h]

theorem length_remaining_fold (operand : Reader) (symbols : List String) (left : Tree)
    (tokens : List Token) :
    (operand.fold symbols left tokens).remaining.length ≤ tokens.length := by
  fun_induction fold operand symbols left tokens with
  | case1 left => exact Nat.le_refl _
  | case2 left operator rest _ _ => exact Nat.le_succ _
  | case3 left operator rest _ stuck after h =>
    exact Nat.le_of_lt (Nat.lt_succ_of_lt (operand.shortens rest _ h))
  | case4 left operator rest _ right after h ih =>
    exact Nat.le_trans ih (Nat.le_of_lt (Nat.lt_succ_of_lt (operand.shortens rest _ h)))
  | case5 left operator rest _ => exact Nat.le_refl _

/-- `operand ( symbol operand )*`, folded to the left. -/
def chain (operand : Reader) (symbols : List String) : Reader where
  read tokens :=
    match operand.read tokens with
    | none => none
    | some (.missing stuck after) => some (.missing stuck after)
    | some (.tree left rest) => some (operand.fold symbols left rest)
  shortens := by
    intro tokens r hr
    cases h : operand.read tokens with
    | none => rw [h] at hr; cases hr
    | some r' =>
      have short := operand.shortens tokens r' h
      rw [h] at hr
      cases r' with
      | missing stuck after => cases hr; exact short
      | tree left rest =>
        cases hr
        exact Nat.lt_of_le_of_lt (operand.length_remaining_fold symbols left rest) short

end Reader

/-- `term := factor ( ('*' | '/') factor )*` -/
def term : Reader := factor.chain ["*", "/"]

/-- `expression := term ( ('+' | '-') term )*` -/
def expression : Reader := term.chain ["+", "-"]

/-- Read the expression at the start of the tokens; what follows it is left alone. -/
def parse (tokens : List Token) : Parsed :=
  match tokens with
  | [] => ⟨.ok none, 0⟩
  | first :: _ =>
    match expression.read tokens with
    | none => ⟨.error (.expectedOperand first.value first.kind first.column), 0⟩
    | some (.tree t rest) => ⟨.ok (some t), tokens.length - rest.length⟩
    | some (.missing operator rest) =>
      ⟨.error (.missingOperand operator.value operator.column), tokens.length - rest.length⟩

/-- A reading, as climbing comes to it where missing operands are reported. -/
def Reading.toClimb : Reading → Climb
  | tree t rest => .tree t rest false
  | missing operator rest => .missing operator rest

/-! ### A layer of the grammar is a level of the table -/

/-- Behind an operand of the level above, a fold over the operators of a level is climbing from
any lower level, if no operator stands between the two levels. -/
theorem climb_eq_fold {operand : Reader} (reject : p.missingOperand = .reject)
    (reads : ∀ tokens, (operand.read tokens).map Reading.toClimb =
      GovernedExpr.expression p (level + 1) tokens)
    (isOneOf : ∀ t : Token, t.IsOneOf symbols ↔ p.levels.levelOf? t = some level)
    (gap : ∀ t l, p.levels.levelOf? t = some l → minLevel ≤ l → level ≤ l) (hle : minLevel ≤ level)
    (ends : p.levels.Ends (level + 1) tokens) :
    climb p minLevel left tokens = (operand.fold symbols left tokens).toClimb := by
  induction hlen : tokens.length using Nat.strong_induction_on generalizing left tokens with
  | _ len ih =>
    cases tokens with
    | nil =>
      rw [climb_of_ends (by rintro _ ⟨⟩), Reader.fold]
      rfl
    | cons operator rest =>
      by_cases h : operator.IsOneOf symbols
      · have hrest := reads rest
        rw [operand.fold_cons left rest h, climb_cons left rest ((isOneOf operator).1 h) hle,
          ← hrest]
        cases hread : operand.read rest with
        | none => simp [ParserSettings.dangling, reject, Reading.toClimb]
        | some r =>
          rw [hread] at hrest
          cases r with
          | missing stuck after => rfl
          | tree right after =>
            have short := operand.shortens rest _ hread
            exact ih after.length (by rw [← hlen]; exact Nat.lt_succ_of_lt short)
              (expression_final hrest.symm) rfl
      · rw [operand.fold_of_not left rest h]
        refine climb_of_ends ?_
        rintro _ ⟨⟩ l hl
        -- a level between the two would make the operator one of the symbols
        by_contra hlow
        have h1 := gap operator l hl (Nat.le_of_not_lt hlow)
        have h2 := ends operator rfl l hl
        obtain rfl : l = level := by omega
        exact h ((isOneOf operator).2 hl)

/-- **A layer of the grammar is a level of the table**: where an operand reads what stands above
a level, a chain of such operands reads what stands at the level. -/
theorem chain_eq_expression {operand : Reader} (reject : p.missingOperand = .reject)
    (reads : ∀ tokens, (operand.read tokens).map Reading.toClimb =
      GovernedExpr.expression p (level + 1) tokens)
    (isOneOf : ∀ t : Token, t.IsOneOf symbols ↔ p.levels.levelOf? t = some level)
    (gap : ∀ t l, p.levels.levelOf? t = some l → minLevel ≤ l → level ≤ l) (hle : minLevel ≤ level)
    (tokens : List Token) :
    ((operand.chain symbols).read tokens).map Reading.toClimb =
      GovernedExpr.expression p minLevel tokens := by
  have htokens := reads tokens
  rw [expression_eq_resume (Nat.le_succ_of_le hle), ← htokens]
  simp only [Reader.chain]
  cases hread : operand.read tokens with
  | none => rfl
  | some r =>
    rw [hread] at htokens
    cases r with
    | missing stuck after => rfl
    | tree left rest =>
      have ends := expression_final htokens.symm
      simp only [Option.map_some, Reading.toClimb, Climb.resume]
      rw [climb_eq_fold reject reads isOneOf gap hle ends]
      rfl

/-! ### The layers of arithmetic -/

theorem level?_arithmetic {s : String} : PrecedenceTable.arithmetic.level? s = some level ↔
    s ∈ ["*", "/"] ∧ level = 20 ∨ s ∈ ["+", "-"] ∧ level = 10 := by
  simp only [PrecedenceTable.arithmetic, PrecedenceTable.level?_insert,
    PrecedenceTable.level?_empty]
  grind

theorem levelOf?_arithmetic {t : Token} : PrecedenceTable.arithmetic.levelOf? t = some level ↔
    t.IsOneOf ["*", "/"] ∧ level = 20 ∨ t.IsOneOf ["+", "-"] ∧ level = 10 := by
  simp only [PrecedenceTable.levelOf?_eq_some_iff, level?_arithmetic, Token.IsOneOf, and_assoc,
    and_or_left]

theorem level_arithmetic {t : Token} (h : PrecedenceTable.arithmetic.levelOf? t = some level) :
    level = 10 ∨ level = 20 := by
  rcases levelOf?_arithmetic.1 h with ⟨-, rfl⟩ | ⟨-, rfl⟩
  · exact .inr rfl
  · exact .inl rfl

theorem factor_eq_expression (tokens : List Token) :
    (factor.read tokens).map Reading.toClimb = GovernedExpr.expression .arithmetic 21 tokens := by
  cases tokens with
  | nil => rfl
  | cons first rest =>
    have ends : PrecedenceTable.arithmetic.Ends 21 rest := by
      intro operator _ level hl
      rcases level_arithmetic hl with rfl | rfl <;> decide
    cases operand : first.operand? with
    | none =>
      rw [expression_eq_none_iff.2 (by rintro _ ⟨⟩; exact operand)]
      unfold Token.operand? at operand
      cases hk : first.kind <;> simp_all [factor]
    | some leaf =>
      rw [expression_cons operand, climb_of_ends ends]
      obtain ⟨hk, rfl⟩ | ⟨hk, rfl⟩ := Token.operand?_eq_some operand <;>
        simp [factor, hk, Reading.toClimb]

theorem term_eq_expression (tokens : List Token) :
    (term.read tokens).map Reading.toClimb = GovernedExpr.expression .arithmetic 11 tokens := by
  have isOneOf (t : Token) :
      t.IsOneOf ["*", "/"] ↔ PrecedenceTable.arithmetic.levelOf? t = some 20 := by
    simp [levelOf?_arithmetic]
  refine chain_eq_expression rfl factor_eq_expression isOneOf (fun t l hl hle => ?_)
    (by decide) tokens
  rcases level_arithmetic hl with rfl | rfl <;> omega

theorem expression_eq_expression (tokens : List Token) :
    (expression.read tokens).map Reading.toClimb =
      GovernedExpr.expression .arithmetic 0 tokens := by
  have isOneOf (t : Token) :
      t.IsOneOf ["+", "-"] ↔ PrecedenceTable.arithmetic.levelOf? t = some 10 := by
    simp [levelOf?_arithmetic]
  refine chain_eq_expression rfl term_eq_expression isOneOf (fun t l hl _ => ?_)
    (by decide) tokens
  rcases level_arithmetic hl with rfl | rfl <;> omega

/-- Climbing with the table of arithmetic and descent through the grammar come to the same. -/
theorem parse_arithmetic_eq (tokens : List Token) :
    GovernedExpr.parse .arithmetic tokens = parse tokens := by
  cases tokens with
  | nil => rfl
  | cons first rest =>
    have h := expression_eq_expression (first :: rest)
    rw [GovernedExpr.parse, parse, ← h]
    cases expression.read (first :: rest) with
    | none => rfl
    | some r => cases r <;> rfl

end Descent

/-! ### The language of the grammar -/

namespace Grammar

/-- One token of a kind. -/
def kind (k : TokenKind) : Language Token := {word | ∃ t : Token, word = [t] ∧ t.kind = k}

/-- One operator with a given symbol. -/
def symbol (s : String) : Language Token :=
  {word | ∃ t : Token, word = [t] ∧ t.kind = .operator ∧ t.value = s}

/-- `factor := IDENTIFIER | NUMBER` -/
def factor : Language Token := kind .identifier + kind .number

/-- `term := factor ( ('*' | '/') factor )*` -/
def term : Language Token := factor * ((symbol "*" + symbol "/") * factor)∗

/-- `expression := term ( ('+' | '-') term )*` -/
def expression : Language Token := term * ((symbol "+" + symbol "-") * term)∗

variable {table : PrecedenceTable} {operand operators : Language Token} {word other : List Token}

/-! ### Words of the language are alternations -/

theorem exists_of_mem_factor (h : word ∈ factor) : ∃ n, table.Alternates n word := by
  rcases h with ⟨t, rfl, hk⟩ | ⟨t, rfl, hk⟩
  · exact ⟨0, t, [], rfl, .inl hk, .nil⟩
  · exact ⟨0, t, [], rfl, .inr hk, .nil⟩

/-- Alternations with operators of the table between them are alternations. -/
theorem exists_of_mem_chain (hoperand : ∀ w ∈ operand, ∃ n, table.Alternates n w)
    (hoperators : ∀ w ∈ operators, ∃ t, w = [t] ∧ table.Configures t)
    (h : word ∈ operand * (operators * operand)∗) : ∃ n, table.Alternates n word := by
  obtain ⟨first, hfirst, others, hothers, rfl⟩ := Language.mem_mul.1 h
  obtain ⟨parts, rfl, hparts⟩ := Language.mem_kstar.1 hothers
  have hfirst' := hoperand first hfirst
  clear hothers h hfirst
  induction parts generalizing first with
  | nil => simpa using hfirst'
  | cons part parts ih =>
    obtain ⟨_, hop, next, hnext, rfl⟩ := Language.mem_mul.1 (hparts part List.mem_cons_self)
    obtain ⟨t, rfl, configured⟩ := hoperators _ hop
    obtain ⟨n, hn⟩ := hfirst'
    obtain ⟨k, hk⟩ := hoperand next hnext
    have := ih (first ++ t :: next) (fun w hw => hparts w (List.mem_cons_of_mem _ hw))
      ⟨_, hn.append configured hk⟩
    simpa using this

/-! ### Alternations are words of the language -/

theorem cons_mem_chain (hfirst : word ∈ operand) {operator : List Token}
    (hop : operator ∈ operators) (h : other ∈ operand * (operators * operand)∗) :
    word ++ (operator ++ other) ∈ operand * (operators * operand)∗ := by
  obtain ⟨next, hnext, others, hothers, rfl⟩ := Language.mem_mul.1 h
  obtain ⟨parts, rfl, hparts⟩ := Language.mem_kstar.1 hothers
  refine Language.append_mem_mul hfirst (Language.mem_kstar.2 ⟨(operator ++ next) :: parts, ?_, ?_⟩)
  · simp
  · rintro part (_ | ⟨_, hpart⟩)
    · exact Language.append_mem_mul hop hnext
    · exact hparts part hpart

theorem mem_factor {first : Token} (h : first.IsOperand) : [first] ∈ factor :=
  h.imp (fun hk => ⟨first, rfl, hk⟩) fun hk => ⟨first, rfl, hk⟩

theorem mem_symbols {operator : Token} {s s' : String} (h : operator.IsOneOf [s, s']) :
    [operator] ∈ symbol s + symbol s' := by
  obtain ⟨hk, hs⟩ := h
  rcases List.mem_pair.1 hs with hs | hs
  · exact .inl ⟨operator, rfl, hk, hs⟩
  · exact .inr ⟨operator, rfl, hk, hs⟩

/-- An operand and an operator of arithmetic in front of an expression make an expression. -/
theorem cons_cons_mem_expression {first operator : Token} (hfirst : first.IsOperand)
    (hop : PrecedenceTable.arithmetic.Configures operator) (h : other ∈ expression) :
    first :: operator :: other ∈ expression := by
  obtain ⟨level, hl⟩ := PrecedenceTable.configures_iff.1 hop
  rcases Descent.levelOf?_arithmetic.1 hl with ⟨mul, -⟩ | ⟨add, -⟩
  · -- a product: the operand joins the first term of the expression
    obtain ⟨next, hnext, others, hothers, rfl⟩ := Language.mem_mul.1 h
    exact Language.append_mem_mul
      (cons_mem_chain (mem_factor hfirst) (mem_symbols mul) hnext) hothers
  · -- a sum: the operand is a term of its own
    have hterm : [first] ∈ term :=
      Language.append_mem_mul (mem_factor hfirst) (Language.nil_mem_kstar _)
    exact cons_mem_chain hterm (mem_symbols add) h

/-- The language of the grammar consists of the alternations of operands and operators of
arithmetic. -/
theorem mem_expression_iff :
    word ∈ expression ↔ ∃ n, PrecedenceTable.arithmetic.Alternates n word := by
  constructor
  · have operators : ∀ (s s' : String), (PrecedenceTable.arithmetic.level? s).isSome →
        (PrecedenceTable.arithmetic.level? s').isSome → ∀ w ∈ symbol s + symbol s',
          ∃ t, w = [t] ∧ PrecedenceTable.arithmetic.Configures t := by
      rintro s s' hs hs' w (⟨t, rfl, hk, rfl⟩ | ⟨t, rfl, hk, rfl⟩)
      · exact ⟨t, rfl, hk, hs⟩
      · exact ⟨t, rfl, hk, hs'⟩
    refine exists_of_mem_chain (fun w hw => ?_) (operators "+" "-" (by decide) (by decide))
    exact exists_of_mem_chain (fun _ => exists_of_mem_factor)
      (operators "*" "/" (by decide) (by decide)) hw
  · rintro ⟨n, first, rest, rfl, isOperand, pairs⟩
    induction pairs generalizing first with
    | nil =>
      exact Language.append_mem_mul (Language.append_mem_mul (mem_factor isOperand)
        (Language.nil_mem_kstar _)) (Language.nil_mem_kstar _)
    | cons configured isOperand' _ ih =>
      exact cons_cons_mem_expression isOperand configured (ih _ isOperand')

end Grammar

theorem all_arithmetic : ParserSettings.arithmetic.levels.All (· ≤ 254) :=
  (((PrecedenceTable.all_empty.insert _ (by decide)).insert _ (by decide)).insert _
    (by decide)).insert _ (by decide)

/-- **With the table of arithmetic, climbing is recursive descent** through the two rules of the
grammar, to the same tree or error and the same cursor; and the tokens that are read completely
are those of the language of the grammar.  A parser with a cursor does the same. -/
theorem parse_arithmetic (tokens : List Token) :
    (parse .arithmetic tokens = Descent.parse tokens ∧
      ((∃ t, (parseComplete .arithmetic tokens).outcome = .ok (some t)) ↔
        tokens ∈ Grammar.expression)) ∧
    Parser.parsed (Parser.new .arithmetic ⟨tokens⟩).parse = Descent.parse tokens ∧
      ((∃ t, (Parser.new .arithmetic ⟨tokens⟩).parseComplete.1 = .ok (some t)) ↔
        tokens ∈ Grammar.expression) := by
  have whole : (∃ t, (parseComplete .arithmetic tokens).outcome = .ok (some t)) ↔
      tokens ∈ Grammar.expression := parseComplete_isSome_iff.trans Grammar.mem_expression_iff.symm
  refine ⟨⟨Descent.parse_arithmetic_eq tokens, whole⟩, ?_, ?_⟩
  · exact (Parser.parsed_parse all_arithmetic).trans (Descent.parse_arithmetic_eq tokens)
  · have same : Parser.parsed (Parser.new .arithmetic ⟨tokens⟩).parseComplete =
        parseComplete .arithmetic tokens := Parser.parsed_parseComplete all_arithmetic
    rw [← whole, ← same]
    rfl

end GovernedExpr
