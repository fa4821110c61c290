import GovernedExpr.Proofs.Pipeline.Accounting
import GovernedExpr.Proofs.Parsing.Policies

/-!
# The tokens that are left over

What follows the expression has no influence on a run: the tokens that were read, written again
with single spaces between them, come to the same, and nothing is left over then.

* `parse_take` says so of parsing;
* `GovernanceStore.RefusesEmpty` says that a governance refuses texts without lexemes;
* `execute_intercalate_take` says it of whole runs.
-/

namespace GovernedExpr

variable {p : ParserSettings} {ts : List Token} {tree : Option Tree} {k : Nat}

/-- The tokens that were read are read again, to the same tree. -/
theorem parse_take (h : parse p ts = ⟨.ok tree, k⟩) : parse p (ts.take k) = ⟨.ok tree, k⟩ := by
  cases tree with
  | none =>
    obtain rfl := position_of_parse_none h
    rfl
  | some t => exact (parseComplete_eq_mk_ok_iff.1 (parseComplete_take h p.missingOperand)).1

namespace GovernanceStore

/-- Texts without lexemes are refused. -/
def RefusesEmpty (s : GovernanceStore) : Prop :=
  ∃ lexing, s.settings .tokenizer StageRecord.lexingSettings = .ok lexing ∧
    lexing.rejectEmptyInput = true

variable {s : GovernanceStore} {source : String} {tokens : TokenStream}

/-- The first tokens of a text are the tokens of a text, if there are any or none are needed. -/
theorem tokenize_intercalate_take (h : s.tokenize source = .ok tokens)
    (some_or_free : 0 < k ∧ k ≤ tokens.length ∨ ¬ s.RefusesEmpty) :
    s.tokenize (" ".intercalate (tokens.values.take k)) = .ok ⟨tokens.tokens.take k⟩ := by
  obtain ⟨lexing, hlexing, rfl, -⟩ := tokenize_eq_ok_iff.1 h
  refine tokenize_eq_ok_iff.2 ⟨lexing, hlexing, Tokenizer.streamOf_intercalate_take _ _ _, ?_⟩
  intro isEmpty
  rcases some_or_free with ⟨hpos, hle⟩ | free
  · rw [TokenStream.isEmpty, List.isEmpty_iff, List.take_eq_nil_iff] at isEmpty
    rw [TokenStream.length] at hle
    rcases isEmpty with rfl | nil
    · omega
    · rw [nil] at hle
      exact absurd hle (Nat.not_le_of_lt hpos)
  · exact Bool.eq_false_iff.2 fun refuses => free ⟨lexing, hlexing, refuses⟩

end GovernanceStore

/-- **The tokens that are left over are ignored.**  When a lenient run succeeds, the strict run on
the values of the tokens it read, joined by single spaces, succeeds with the same output but for
the tokens, which are those that were read, and it is complete.  Where no token was read, texts
without lexemes must not be refused. -/
theorem execute_intercalate_take {s : GovernanceStore} {format : Option String} {source : String}
    {out : RunOutput} (h : s.execute ⟨format, false⟩ source = .ok out)
    (some_or_free : 0 < out.consumed ∨ ¬ s.RefusesEmpty) :
    let kept := { out with tokens := ⟨out.tokens.tokens.take out.consumed⟩ }
    s.execute ⟨format, true⟩ (" ".intercalate (out.tokens.values.take out.consumed)) = .ok kept ∧
      kept.isComplete = true := by
  intro kept
  obtain ⟨htokens, hparse, hmeasure, hwrite⟩ := GovernanceStore.execute_eq_ok_iff.1 h
  obtain ⟨p, hp, hread, -⟩ := GovernanceStore.parse_eq_ok_iff.1 hparse
  have hle : out.consumed ≤ out.tokens.length := by
    have := position_parse_le p out.tokens.tokens
    rwa [hread] at this
  have complete : out.consumed = kept.tokens.length := (List.length_take_of_le hle).symm
  refine ⟨GovernanceStore.execute_eq_ok_iff.2 ⟨?_, ?_, hmeasure, hwrite⟩, ?_⟩
  · exact GovernanceStore.tokenize_intercalate_take htokens
      (some_or_free.imp_left fun some => ⟨some, hle⟩)
  · exact GovernanceStore.parse_eq_ok_iff.2 ⟨p, hp, parse_take hread, fun _ => complete⟩
  · simpa [RunOutput.isComplete] using complete

/-- Three tokens are left over, and the governance refuses texts without lexemes. -/
theorem execute_intercalate_take_sumsFirst :
    let out := RunOutput.sumsFirst
    let kept := { out with tokens := ⟨out.tokens.tokens.take 5⟩ }
    GovernanceStore.sumsFirst.execute ⟨none, false⟩ "a * b + 2 - @ c" = .ok out ∧
      0 < out.consumed ∧
      GovernanceStore.sumsFirst.execute ⟨none, true⟩ "a * b + 2" = .ok kept ∧
      kept.isComplete = true := by
  intro out kept
  have h := GovernanceStore.execute_sumsFirst
  have read : 0 < out.consumed := by decide
  have source : " ".intercalate (out.tokens.values.take out.consumed) = "a * b + 2" := by
    decide +kernel
  have again := execute_intercalate_take h (.inl read)
  rw [source] at again
  exact ⟨h, read, again⟩

end GovernedExpr
