import GovernedExpr.Parsing.Climb

/-!
# A parser with a cursor

A `Parser` climbs over a stream of tokens in place.  It moves a cursor forward, back to the
operator where an operand is missing, and takes no operator any more once that has happened.

* `LevelNumber` are the numbers that levels are compared in; bytes wrap around, natural numbers
  do not;
* `Parser.extend` continues a left operand through the operators under the cursor, and
  `Parser.expression` reads an operand and continues it;
* `Parser.Moves` is what every reading does to a parser: it moves the cursor forward over the same
  tokens, so reading comes to an end;
* `Parser.parse` and `Parser.parseComplete` read the stream from its start, wherever the cursor is.
-/

namespace GovernedExpr

/-- Numbers that stand for levels while reading. -/
class LevelNumber (α : Type) where
  /-- The number of a level of a table. -/
  ofLevel : Nat → α
  /-- The number behind another one: the minimum level on the right side of an operator. -/
  next : α → α
  /-- Whether a number is less than another one. -/
  isBelow : α → α → Bool

instance : LevelNumber Nat where
  ofLevel level := level
  next n := n + 1
  isBelow m n := m < n

instance : LevelNumber UInt8 where
  ofLevel level := .ofNat level
  next n := n + 1
  isBelow m n := m < n

open LevelNumber

/-- A reader of tokens with a cursor. -/
structure Parser where
  settings : ParserSettings
  tokens : List Token
  position : Nat
  /-- Whether an operand was missing; no operator is taken from then on. -/
  halted : Bool
  deriving DecidableEq

namespace Parser

/-- A parser at the start of a stream. -/
def new (settings : ParserSettings) (s : TokenStream) : Parser :=
  ⟨settings, s.tokens, 0, false⟩

/-- The token under the cursor. -/
def current? (r : Parser) : Option Token :=
  r.tokens[r.position]?

/-- Whether the cursor is behind the last token. -/
def isExhausted (r : Parser) : Bool :=
  r.tokens.length ≤ r.position

/-- Move the cursor over one token, if there is one. -/
def advance (r : Parser) : Parser :=
  if r.position < r.tokens.length then { r with position := r.position + 1 } else r

/-- The parser with its cursor at the start of the stream. -/
def restart (r : Parser) : Parser :=
  { r with position := 0, halted := false }

/-- The leaf of the token under the cursor, if that is an operand. -/
def operand? (r : Parser) : Option Tree :=
  r.current?.bind Token.operand?

/-- The operator of the table under the cursor, with its level. -/
def operator? (r : Parser) : Option (Token × Nat) :=
  if r.halted then none
  else r.current?.bind fun t => (r.settings.levels.levelOf? t).map fun level => (t, level)

/-- What a missing right operand comes to, the operator at a position having been taken behind
the left operand. -/
def dangling (r : Parser) (left : Tree) (operator : Token) (position : Nat) :
    Except ParseError Tree × Parser :=
  match r.settings.missingOperand with
  | .reject => (.error (.missingOperand operator.value operator.column), r)
  | .truncate => (.ok left, { r with position := position, halted := true })

/-! ### The cursor only moves forward -/

/-- From one parser to the other, the cursor has moved forward over the same tokens. -/
structure Moves (r s : Parser) : Prop where
  settings_eq : s.settings = r.settings
  tokens_eq : s.tokens = r.tokens
  forward : r.position ≤ s.position
  within : r.position ≤ r.tokens.length → s.position ≤ r.tokens.length

variable {r s : Parser} {operator : Token} {level : Nat} {leaf : Tree}

theorem Moves.refl (r : Parser) : r.Moves r :=
  ⟨rfl, rfl, Nat.le_refl _, id⟩

theorem Moves.trans {t : Parser} (h : r.Moves s) (h' : s.Moves t) : r.Moves t where
  settings_eq := h'.settings_eq.trans h.settings_eq
  tokens_eq := h'.tokens_eq.trans h.tokens_eq
  forward := Nat.le_trans h.forward h'.forward
  within hr := by
    have := h'.within
    rw [h.tokens_eq] at this
    exact this (h.within hr)

theorem current?_eq_some (h : r.current? = some operator) : r.position < r.tokens.length :=
  (List.getElem?_eq_some_iff.1 h).1

theorem advance_of_lt (h : r.position < r.tokens.length) :
    r.advance = { r with position := r.position + 1 } :=
  if_pos h

theorem moves_advance (r : Parser) : r.Moves r.advance := by
  by_cases h : r.position < r.tokens.length
  · rw [advance_of_lt h]
    exact ⟨rfl, rfl, Nat.le_succ _, fun _ => h⟩
  · rw [advance, if_neg h]
    exact .refl r

theorem operand?_eq_some (h : r.operand? = some leaf) : r.position < r.tokens.length := by
  obtain ⟨t, current, -⟩ := Option.bind_eq_some_iff.1 h
  exact current?_eq_some current

theorem operator?_eq_some_iff : r.operator? = some (operator, level) ↔
    r.halted = false ∧ r.current? = some operator ∧
      r.settings.levels.levelOf? operator = some level := by
  unfold operator?
  cases r.halted <;> simp [Option.bind_eq_some_iff]

theorem lt_of_operator? (h : r.operator? = some (operator, level)) :
    r.position < r.tokens.length :=
  current?_eq_some (operator?_eq_some_iff.1 h).2.1

/-- An operator and an operand are two tokens. -/
theorem advance_advance (hop : r.operator? = some (operator, level))
    (operand : r.advance.operand? = some leaf) :
    r.advance.advance = { r with position := r.position + 2 } := by
  have h := operand?_eq_some operand
  rw [advance_of_lt (lt_of_operator? hop)] at h ⊢
  exact advance_of_lt h

/-- A missing operand brings the cursor back to its operator at most. -/
theorem Moves.dangling (h : r.Moves s) (left : Tree) (operator : Token) :
    r.Moves (s.dangling left operator r.position).2 := by
  unfold Parser.dangling
  split
  · exact h
  · exact ⟨h.settings_eq, h.tokens_eq, Nat.le_refl _, id⟩

/-! ### Reading -/

variable {α : Type} [LevelNumber α]

/-- Continue a left operand through the operators of a minimum level under the cursor; the cursor
moves forward. -/
def extendWithin (minLevel : α) (left : Tree) (r : Parser) :
    { x : Except ParseError Tree × Parser // r.Moves x.2 } :=
  match _found : r.operator? with
  | none => ⟨(.ok left, r), .refl r⟩
  | some (operator, level) =>
    if isBelow (ofLevel level) minLevel then ⟨(.ok left, r), .refl r⟩
    else
      match _operand : r.advance.operand? with
      | none =>
        ⟨r.advance.dangling left operator r.position, r.moves_advance.dangling left operator⟩
      | some leaf =>
        have first := r.moves_advance.trans r.advance.moves_advance
        match extendWithin (next (ofLevel level)) leaf r.advance.advance with
        | ⟨(.error e, s), h⟩ => ⟨(.error e, s), first.trans h⟩
        | ⟨(.ok right, s), h⟩ =>
          let rest := extendWithin minLevel (.binary operator.value left right) s
          ⟨rest.1, (first.trans h).trans rest.2⟩
  termination_by r.tokens.length - r.position
  decreasing_by
    · have := lt_of_operator? _found
      simp only [advance_advance _found _operand]
      omega
    · have := lt_of_operator? _found
      have same := congrArg List.length h.tokens_eq
      have forward := h.forward
      simp only [advance_advance _found _operand] at same forward
      omega

/-- Continue a left operand through the operators of a minimum level under the cursor. -/
def extend (minLevel : α) (left : Tree) (r : Parser) : Except ParseError Tree × Parser :=
  (extendWithin minLevel left r).1

/-- Read an expression at a minimum level; there is none where no operand is under the cursor. -/
def expression (minLevel : α) (r : Parser) : Except ParseError (Option Tree) × Parser :=
  match r.operand? with
  | none => (.ok none, r)
  | some leaf =>
    let read := r.advance.extend minLevel leaf
    (read.1.map some, read.2)

/-- Read one expression from the start of the stream, wherever the cursor is, with levels as
numbers of some type. -/
def parseWith (α : Type) [LevelNumber α] (r : Parser) :
    Except ParseError (Option Tree) × Parser :=
  match r.restart.current? with
  | none => (.ok none, r.restart)
  | some first =>
    match r.restart.expression (ofLevel 0 : α) with
    | (.ok none, s) =>
      match s.settings.missingOperand with
      | .reject => (.error (.expectedOperand first.value first.kind first.column), s)
      | .truncate => (.ok none, s)
    | read => read

/-- Read one expression from the start of the stream, with levels as bytes. -/
def parse (r : Parser) : Except ParseError (Option Tree) × Parser :=
  r.parseWith UInt8

/-- Read the whole stream as one expression; a token left over is an error. -/
def parseComplete (r : Parser) : Except ParseError (Option Tree) × Parser :=
  match r.parse with
  | (.ok root, s) =>
    match s.current? with
    | some t => (.error (.unexpectedToken t.value t.kind t.column), s)
    | none => (.ok root, s)
  | (.error e, s) => (.error e, s)

end Parser

/-- Read one expression of arithmetic from the start of a stream, with a parser of its own. -/
def TokenStream.parse (s : TokenStream) : Except ParseError (Option Tree) :=
  (Parser.new .arithmetic s).parse.1

end GovernedExpr
