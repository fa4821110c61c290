import GovernedExpr.Proofs.Parsing.Cursor

/-!
# A parser has no memory

One parser may be asked again and again, after errors and where reading has stopped early.  Its
cursor never leaves the stream, and reading starts over each time.

* `Parser.Call` is what a parser may be asked, `Parser.answer` what it says and the parser that it
  leaves, and `Parser.after` the parser behind a sequence of calls;
* `Parser.IsOn` is the invariant: the settings and the stream are those that the parser was made
  with, and the cursor is on the stream.  `Parser.IsOn.answer` keeps it for one call and
  `Parser.IsOn.after` for a sequence;
* `Parser.answer_after` says that no answer depends on the calls before it.
-/

namespace GovernedExpr

namespace Parser

/-- What may be asked of a parser: to read its stream, or to move its cursor over one token.  Its
stream may also be read by a parser of its own. -/
inductive Call
  | parse
  | parseComplete
  | advance
  | readAlone
  deriving DecidableEq

/-- The answer to a call, where there is one, and the parser that the call leaves. -/
def answer (r : Parser) : Call → Option (Except ParseError (Option Tree)) × Parser
  | .parse => (some r.parse.1, r.parse.2)
  | .parseComplete => (some r.parseComplete.1, r.parseComplete.2)
  | .advance => (none, r.advance)
  | .readAlone => (some (TokenStream.parse ⟨r.tokens⟩), r)

/-- The parser behind a sequence of calls. -/
def after (r : Parser) (calls : List Call) : Parser :=
  calls.foldl (fun r call => (r.answer call).2) r

/-- The parser has the settings and the stream that it was made with, and its cursor is on the
stream. -/
structure IsOn (r : Parser) (p : ParserSettings) (s : TokenStream) : Prop where
  settings_eq : r.settings = p
  tokens_eq : r.tokens = s.tokens
  within : r.position ≤ s.tokens.length

variable {r r' : Parser} {p : ParserSettings} {s : TokenStream}

theorem isOn_new (p : ParserSettings) (s : TokenStream) : (new p s).IsOn p s :=
  ⟨rfl, rfl, Nat.zero_le _⟩

/-- Moving forward stays on the stream. -/
theorem IsOn.of_moves (h : r.IsOn p s) (moves : r.Moves r') : r'.IsOn p s where
  settings_eq := moves.settings_eq.trans h.settings_eq
  tokens_eq := moves.tokens_eq.trans h.tokens_eq
  within := by
    have within := moves.within
    rw [h.tokens_eq] at within
    exact within h.within

/-- Of all that a parser has been through, nothing is left when it starts over. -/
theorem IsOn.restart_eq (h : r.IsOn p s) : r.restart = new p s := by
  rw [restart, h.settings_eq, h.tokens_eq, new]

theorem IsOn.parse_eq (h : r.IsOn p s) : r.parse = (new p s).parse := by
  have again : r.parse = r.restart.parse := rfl
  rw [again, h.restart_eq]

theorem IsOn.parseComplete_eq (h : r.IsOn p s) : r.parseComplete = (new p s).parseComplete := by
  rw [parseComplete, parseComplete, h.parse_eq]

theorem isOn_parse (p : ParserSettings) (s : TokenStream) : (new p s).parse.2.IsOn p s :=
  (isOn_new p s).of_moves ((new p s).moves_parseWith UInt8)

/-- Moving on stops at the end of the stream. -/
theorem IsOn.position_advance (h : r.IsOn p s) :
    r.advance.position = min (r.position + 1) s.tokens.length := by
  have within := h.within
  rw [← h.tokens_eq] at within ⊢
  by_cases hlt : r.position < r.tokens.length
  · rw [advance_of_lt hlt]
    exact (Nat.min_eq_left hlt).symm
  · rw [advance, if_neg hlt]
    omega

/-! ### Calls in sequence -/

/-- A call leaves the parser on its stream, whatever it comes to. -/
theorem IsOn.answer (h : r.IsOn p s) (call : Call) : (r.answer call).2.IsOn p s := by
  cases call with
  | parse =>
    rw [Parser.answer, h.parse_eq]
    exact isOn_parse p s
  | parseComplete =>
    rw [Parser.answer, parseComplete_snd, h.parse_eq]
    exact isOn_parse p s
  | advance => exact h.of_moves r.moves_advance
  | readAlone => exact h

/-- **The cursor never leaves the stream**, and the stream is never another one. -/
theorem IsOn.after (h : r.IsOn p s) (calls : List Call) : (r.after calls).IsOn p s := by
  induction calls generalizing r with
  | nil => exact h
  | cons call calls ih => exact ih (h.answer call)

/-- Reading the stream with another parser may be left out. -/
theorem after_filter (r : Parser) (calls : List Call) :
    r.after (calls.filter (· ≠ .readAlone)) = r.after calls := by
  induction calls generalizing r with
  | nil => rfl
  | cons call calls ih => cases call <;> exact ih _

/-- **A parser has no memory.**  Behind any sequence of calls the cursor is on the stream, it has
come to the end exactly where there is no token under it, and it moves on by one token up to there.
Reading gives the same result and leaves the same parser as with a new one.  A parser of its own,
that reads the same stream, neither notices the calls nor makes a difference to them. -/
theorem answer_after (p : ParserSettings) (s : TokenStream) (calls : List Call) :
    let r := (new p s).after calls
    r.position ≤ s.tokens.length ∧
    (r.isExhausted = true ↔ r.position = s.tokens.length) ∧
    (r.isExhausted = true ↔ r.current? = none) ∧
    (∀ h : r.position < s.tokens.length, r.current? = some s.tokens[r.position]) ∧
    (r.answer .advance).2.position = min (r.position + 1) s.tokens.length ∧
    r.answer .parse = (new p s).answer .parse ∧
    r.answer .parseComplete = (new p s).answer .parseComplete ∧
    r.answer .readAlone = (some s.parse, r) ∧
    (new p s).after (calls.filter (· ≠ .readAlone)) = r := by
  intro r
  have on : r.IsOn p s := (isOn_new p s).after calls
  have within := on.within
  refine ⟨within, ?_, ?_, fun h => ?_, on.position_advance, ?_, ?_, ?_, after_filter _ calls⟩
  · rw [isExhausted, on.tokens_eq, decide_eq_true_iff]
    omega
  · rw [isExhausted, current?, decide_eq_true_iff, List.getElem?_eq_none_iff]
  · rw [current?, on.tokens_eq]
    exact List.getElem?_eq_getElem h
  · rw [Parser.answer, Parser.answer, on.parse_eq]
  · rw [Parser.answer, Parser.answer, on.parseComplete_eq]
  · rw [Parser.answer, on.tokens_eq]

/-- An error leaves the cursor behind the operator, and reading again goes through it once more. -/
example :
    let s : TokenStream := .ofList [⟨.number, "1", 1, 1, 0⟩, ⟨.operator, "+", 1, 2, 0⟩,
      ⟨.operator, "*", 1, 3, 0⟩]
    let r := (new .arithmetic s).after [.parse, .advance, .parseComplete, .advance]
    (r.position, r.isExhausted) = (3, true) ∧ r.parse.2.position = 2 := by
  decide +kernel

end Parser

end GovernedExpr
