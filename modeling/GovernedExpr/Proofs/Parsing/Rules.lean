import GovernedExpr.Parsing.Climb

/-!
# The rules of climbing

`climb` is a loop that recurses for the right side of every operator.  Here it is taken apart
once, so that nothing below has to look at its definition again.

* `PrecedenceTable.Ends` says that no operator of a minimum level stands first, `NoOperandFirst`
  that no operand does, and `PrecedenceTable.Dangles` that an operator without operand does;
* `climb_of_ends`, `climb_cons` are the equations of the loop, `parse_of_expression` and
  `parse_of_operand?_eq_none` those of the parser around it;
* `Climbs` is climbing as a system of rules, one for each way a round of the loop can go;
  `climbs_climb` derives what the loop computes and `Climbs.climb_eq` says that nothing else is
  derived, so an induction on a derivation follows a whole run, and `Climbs.final` says why a run
  stopped;
* `climb_eq_resume` says that climbing at a lower level goes on where climbing at a higher level
  has stopped.
-/

namespace GovernedExpr

variable {p : ParserSettings} {minLevel level : Nat} {left leaf : Tree} {tokens rest : List Token}
  {operator first : Token} {c : Climb}

/-! ### What stands first -/

/-- No operand stands first. -/
def NoOperandFirst (tokens : List Token) : Prop :=
  ∀ t ∈ tokens.head?, t.operand? = none

/-- No operator of the minimum level or above stands first. -/
def PrecedenceTable.Ends (table : PrecedenceTable) (minLevel : Nat) (tokens : List Token) : Prop :=
  ∀ t ∈ tokens.head?, ∀ level ∈ table.levelOf? t, level < minLevel

/-- An operator of the table stands first, and no operand stands behind it. -/
def PrecedenceTable.Dangles (table : PrecedenceTable) (tokens : List Token) : Prop :=
  ∃ operator rest level, tokens = operator :: rest ∧ table.levelOf? operator = some level ∧
    NoOperandFirst rest

theorem PrecedenceTable.levelOf?_eq_some_iff {table : PrecedenceTable} {t : Token} :
    table.levelOf? t = some level ↔ t.kind = .operator ∧ table.level? t.value = some level := by
  unfold levelOf?
  split <;> simp_all

theorem ParserSettings.dangling_eq (p : ParserSettings) (left : Tree) (operator : Token)
    (rest : List Token) :
    p.missingOperand = .reject ∧ p.dangling left operator rest = .missing operator rest ∨
      p.missingOperand = .truncate ∧
        p.dangling left operator rest = .tree left (operator :: rest) true := by
  unfold dangling
  cases p.missingOperand <;> simp

/-! ### The equations of the loop -/

theorem climb_of_ends (ends : p.levels.Ends minLevel tokens) :
    climb p minLevel left tokens = .tree left tokens false := by
  cases tokens with
  | nil => simp [climb, climbWithin]
  | cons operator rest =>
    rw [climb, climbWithin.eq_def]
    cases configured : p.levels.levelOf? operator with
    | none => simp [configured]
    | some level => simp [configured, ends operator rfl level configured]

/-- One round of the loop, at an operator that binds. -/
theorem climb_cons (left : Tree) (rest : List Token)
    (configured : p.levels.levelOf? operator = some level) (binds : minLevel ≤ level) :
    climb p minLevel left (operator :: rest) =
      match expression p (level + 1) rest with
      | none => p.dangling left operator rest
      | some (.missing stuck after) => .missing stuck after
      | some (.tree right after true) => .tree (.binary operator.value left right) after true
      | some (.tree right after false) =>
        climb p minLevel (.binary operator.value left right) after := by
  rw [climb, climbWithin.eq_def]
  have hm : ¬ level < minLevel := Nat.not_lt.2 binds
  cases rest with
  | nil => simp [configured, hm, expression]
  | cons first tail =>
    cases operand : first.operand? with
    | none => simp [configured, hm, operand, expression]
    | some leaf =>
      simp only [configured, hm, operand, expression, climb, if_false, Option.map_some]
      rcases climbWithin p (level + 1) leaf tail with ⟨⟨t, after, _ | _⟩ | ⟨stuck, after⟩, _⟩ <;>
        rfl

theorem expression_cons (operand : first.operand? = some leaf) :
    expression p minLevel (first :: rest) = some (climb p minLevel leaf rest) := by
  simp [expression, operand]

theorem expression_eq_none_iff : expression p minLevel tokens = none ↔ NoOperandFirst tokens := by
  cases tokens <;> simp [expression, NoOperandFirst]

/-! ### Climbing as rules -/

/-- `Climbs p minLevel left tokens c`: climbing from the left operand `left` comes to `c`. -/
inductive Climbs (p : ParserSettings) : Nat → Tree → List Token → Climb → Prop
  /-- No operator that binds follows. -/
  | stop {minLevel : Nat} {left : Tree} {tokens : List Token}
      (ends : p.levels.Ends minLevel tokens) :
      Climbs p minLevel left tokens (.tree left tokens false)
  /-- An operator binds, and no operand follows it. -/
  | dangling {minLevel level : Nat} {left : Tree} {operator : Token} {rest : List Token}
      (configured : p.levels.levelOf? operator = some level) (binds : minLevel ≤ level)
      (bare : NoOperandFirst rest) :
      Climbs p minLevel left (operator :: rest) (p.dangling left operator rest)
  /-- The right side fails. -/
  | missing {minLevel level : Nat} {left leaf : Tree} {operator first stuck : Token}
      {tail after : List Token}
      (configured : p.levels.levelOf? operator = some level) (binds : minLevel ≤ level)
      (operand : first.operand? = some leaf)
      (right : Climbs p (level + 1) leaf tail (.missing stuck after)) :
      Climbs p minLevel left (operator :: first :: tail) (.missing stuck after)
  /-- The right side is stopped by a missing operand, which stops this loop too. -/
  | halted {minLevel level : Nat} {left leaf t : Tree} {operator first : Token}
      {tail after : List Token}
      (configured : p.levels.levelOf? operator = some level) (binds : minLevel ≤ level)
      (operand : first.operand? = some leaf)
      (right : Climbs p (level + 1) leaf tail (.tree t after true)) :
      Climbs p minLevel left (operator :: first :: tail)
        (.tree (.binary operator.value left t) after true)
  /-- The right side is complete, and the loop goes on behind it. -/
  | fold {minLevel level : Nat} {left leaf t : Tree} {operator first : Token}
      {tail after : List Token} {c : Climb}
      (configured : p.levels.levelOf? operator = some level) (binds : minLevel ≤ level)
      (operand : first.operand? = some leaf)
      (right : Climbs p (level + 1) leaf tail (.tree t after false))
      (next : Climbs p minLevel (.binary operator.value left t) after c) :
      Climbs p minLevel left (operator :: first :: tail) c

/-- Every run of the loop has a derivation. -/
theorem climbs_climb (p : ParserSettings) (minLevel : Nat) (left : Tree) (tokens : List Token) :
    Climbs p minLevel left tokens (climb p minLevel left tokens) := by
  unfold climb
  -- the loop has eight branches for the five rules: it stops for three reasons, and an operand
  -- can be missing at the end of the tokens or before it
  fun_induction climbWithin p minLevel left tokens with
  | case1 p minLevel left => exact .stop (by simp [PrecedenceTable.Ends])
  | case2 p minLevel left operator rest unconfigured =>
    exact .stop (by simp [PrecedenceTable.Ends, unconfigured])
  | case3 p minLevel left operator rest level configured loose =>
    exact .stop (by simpa [PrecedenceTable.Ends, configured] using loose)
  | case4 p minLevel left operator level configured binds =>
    exact .dangling configured (Nat.le_of_not_lt binds) (by simp [NoOperandFirst])
  | case5 p minLevel left operator level configured binds first tail bare =>
    exact .dangling configured (Nat.le_of_not_lt binds) (by simpa [NoOperandFirst] using bare)
  | case6 p minLevel left operator level configured binds first tail leaf operand stuck after _
      right ih =>
    rw [right] at ih
    exact .missing configured (Nat.le_of_not_lt binds) operand ih
  | case7 p minLevel left operator level configured binds first tail leaf operand t after _
      right ih =>
    rw [right] at ih
    exact .halted configured (Nat.le_of_not_lt binds) operand ih
  | case8 p minLevel left operator level configured binds first tail leaf operand t after _
      right next ih ihnext =>
    rw [right] at ih
    exact .fold configured (Nat.le_of_not_lt binds) operand ih ihnext

/-- The rules derive nothing but what the loop computes. -/
theorem Climbs.climb_eq (h : Climbs p minLevel left tokens c) :
    climb p minLevel left tokens = c := by
  induction h with
  | stop ends => exact climb_of_ends ends
  | dangling configured binds bare =>
    rw [climb_cons _ _ configured binds, expression_eq_none_iff.2 bare]
  | missing configured binds operand _ ih | halted configured binds operand _ ih =>
    rw [climb_cons _ _ configured binds, expression_cons operand, ih]
  | fold configured binds operand _ _ ih ihnext =>
    rw [climb_cons _ _ configured binds, expression_cons operand, ih]
    exact ihnext

/-- Why climbing stopped: no operator that binds follows, or an operator dangles. -/
def Climb.Final (p : ParserSettings) (minLevel : Nat) : Climb → Prop
  | .tree _ rest false => p.levels.Ends minLevel rest
  | .tree _ rest true => p.missingOperand = .truncate ∧ p.levels.Dangles rest
  | .missing operator rest => p.missingOperand = .reject ∧ p.levels.Dangles (operator :: rest)

theorem Climbs.final (h : Climbs p minLevel left tokens c) : c.Final p minLevel := by
  induction h with
  | stop ends => exact ends
  | @dangling _ level left operator rest configured _ bare =>
    have dangles : p.levels.Dangles (operator :: rest) :=
      ⟨operator, rest, level, rfl, configured, bare⟩
    obtain ⟨hp, hd⟩ | ⟨hp, hd⟩ := p.dangling_eq left operator rest <;> rw [hd] <;>
      exact ⟨hp, dangles⟩
  | missing _ _ _ _ ih | halted _ _ _ _ ih => exact ih
  | fold _ _ _ _ _ _ ihnext => exact ihnext

theorem expression_final (h : expression p minLevel tokens = some c) : c.Final p minLevel := by
  cases tokens with
  | nil => cases h
  | cons first rest =>
    obtain ⟨leaf, operand, rfl⟩ := Option.map_eq_some_iff.1 h
    exact (climbs_climb p minLevel leaf rest).final

/-- What is not read is an end of the tokens. -/
theorem Climbs.suffix (h : Climbs p minLevel left tokens c) : c.rest <:+ tokens := by
  induction h with
  | stop _ => exact List.suffix_refl _
  | @dangling _ _ left operator rest _ _ _ =>
    obtain ⟨-, hd⟩ | ⟨-, hd⟩ := p.dangling_eq left operator rest <;> rw [hd]
    · exact List.suffix_cons _ _
    · exact List.suffix_refl _
  | missing _ _ _ _ ih | halted _ _ _ _ ih =>
    exact ih.trans ((List.suffix_cons _ _).trans (List.suffix_cons _ _))
  | fold _ _ _ _ _ ih ihnext =>
    exact (ihnext.trans ih).trans ((List.suffix_cons _ _).trans (List.suffix_cons _ _))

/-! ### Resuming at a lower level -/

/-- Go on climbing at a minimum level, unless the end of the expression has been reached. -/
def Climb.resume (p : ParserSettings) (minLevel : Nat) : Climb → Climb
  | .tree t rest false => climb p minLevel t rest
  | .tree t rest true => .tree t rest true
  | .missing operator rest => .missing operator rest

/-- **Climbing at a lower level goes on where climbing at a higher level stops.** -/
theorem climb_eq_resume {low high : Nat} (hle : low ≤ high) (left : Tree) (tokens : List Token) :
    climb p low left tokens = (climb p high left tokens).resume p low := by
  have h := climbs_climb p high left tokens
  generalize climb p high left tokens = c at h
  induction h with
  | stop _ => rfl
  | @dangling _ _ left operator rest configured binds bare =>
    rw [climb_cons _ _ configured (Nat.le_trans hle binds), expression_eq_none_iff.2 bare]
    obtain ⟨-, hd⟩ | ⟨-, hd⟩ := p.dangling_eq left operator rest <;> rw [hd] <;> rfl
  | missing configured binds operand right _ | halted configured binds operand right _ =>
    rw [climb_cons _ _ configured (Nat.le_trans hle binds), expression_cons operand, right.climb_eq]
    rfl
  | fold configured binds operand right _ _ ihnext =>
    -- both loops fold the same right side, whose minimum level is that of the operator
    rw [climb_cons _ _ configured (Nat.le_trans hle binds), expression_cons operand, right.climb_eq]
    exact ihnext hle

theorem expression_eq_resume {low high : Nat} (hle : low ≤ high) (tokens : List Token) :
    expression p low tokens = (expression p high tokens).map (Climb.resume p low) := by
  cases tokens with
  | nil => rfl
  | cons first rest =>
    cases operand : first.operand? with
    | none => simp [expression, operand]
    | some leaf =>
      rw [expression_cons operand, expression_cons operand, climb_eq_resume hle]
      rfl

/-! ### The parser around the loop -/

/-- What parsing some number of tokens comes to where reading them comes to `c`. -/
def Climb.parsed (length : Nat) : Climb → Parsed
  | .tree t rest _ => ⟨.ok (some t), length - rest.length⟩
  | .missing operator rest =>
    ⟨.error (.missingOperand operator.value operator.column), length - rest.length⟩

@[simp] theorem Climb.parsed_tree (t : Tree) (rest : List Token) (halted : Bool) (k : Nat) :
    (Climb.tree t rest halted).parsed (k + rest.length) = ⟨.ok (some t), k⟩ := by
  simp [parsed]

@[simp] theorem Climb.parsed_missing (operator : Token) (rest : List Token) (k : Nat) :
    (Climb.missing operator rest).parsed (k + rest.length) =
      ⟨.error (.missingOperand operator.value operator.column), k⟩ := by
  simp [parsed]

theorem parse_of_expression (h : expression p 0 tokens = some c) :
    parse p tokens = c.parsed tokens.length := by
  cases tokens with
  | nil => cases h
  | cons first rest =>
    rw [parse, h]
    cases c <;> rfl

/-- Where no operand stands first, nothing is read. -/
theorem parse_of_operand?_eq_none (bare : first.operand? = none) :
    parse p (first :: rest) =
      match p.missingOperand with
      | .reject => ⟨.error (.expectedOperand first.value first.kind first.column), 0⟩
      | .truncate => ⟨.ok none, 0⟩ := by
  cases hp : p.missingOperand <;> simp [parse, expression, bare, hp]

/-- A complete parse is a parse that leaves no token. -/
theorem parseComplete_eq_ok_iff {root : Option Tree} :
    (parseComplete p tokens).outcome = .ok root ↔
      (parse p tokens).outcome = .ok root ∧ tokens.length ≤ (parse p tokens).position := by
  unfold parseComplete
  generalize parse p tokens = r
  obtain ⟨outcome, position⟩ := r
  cases outcome with
  | error e => simp
  | ok t =>
    cases unread : tokens[position]? with
    | none => simpa [unread] using fun _ => List.getElem?_eq_none_iff.1 unread
    | some next =>
      obtain ⟨hlt, -⟩ := List.getElem?_eq_some_iff.1 unread
      simp [hlt]

/-- Where parsing gives a tree, the loop has given it, behind an operand that stands first. -/
theorem exists_climbs_of_parse {t : Tree} (h : (parse p tokens).outcome = .ok (some t)) :
    ∃ first tail leaf rest halted, tokens = first :: tail ∧ first.operand? = some leaf ∧
      Climbs p 0 leaf tail (.tree t rest halted) ∧
      (parse p tokens).position = tokens.length - rest.length := by
  cases tokens with
  | nil => cases h
  | cons first tail =>
    cases operand : first.operand? with
    | none =>
      rw [parse_of_operand?_eq_none operand] at h
      cases hp : p.missingOperand <;> rw [hp] at h <;> cases h
    | some leaf =>
      have run := climbs_climb p 0 leaf tail
      rw [parse_of_expression (expression_cons operand)] at h ⊢
      cases hc : climb p 0 leaf tail with
      | missing operator rest => rw [hc] at h; cases h
      | tree t' rest halted =>
        rw [hc] at h run
        cases h
        exact ⟨first, tail, leaf, rest, halted, rfl, operand, run, rfl⟩

end GovernedExpr
