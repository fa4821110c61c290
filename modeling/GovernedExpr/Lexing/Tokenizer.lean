import GovernedExpr.Lexing.Classifier
import GovernedExpr.Text.Blank

/-!
# Tokenization

A text is cut at its blanks, and each lexeme is classified on its own.

* `LexingSettings` holds the rules and what happens with a text without lexemes;
* `Tokenizer.tokenize` makes one token of each lexeme, in order;
* `tokenize` does so for bare rules, which refuse no text.
-/

namespace GovernedExpr

open Text

/-- Why a text has no tokens. -/
inductive LexingError
  /-- The text has no lexemes, and such texts are refused. -/
  | emptyInput
  deriving DecidableEq

/-- The wording of an error of tokenization. -/
def LexingError.message : LexingError → String
  | emptyInput => "Input contains no lexemes"

/-- The rules of tokenization, whether a text without lexemes is refused, and whether recovery
from unmatched lexemes is announced, which changes no token. -/
structure LexingSettings where
  rules : List TokenRule
  rejectEmptyInput : Bool
  errorRecovery : Bool
  deriving DecidableEq

/-- A classifier, and whether a text without lexemes is refused. -/
structure Tokenizer where
  classifier : Classifier
  rejectEmptyInput : Bool

namespace Tokenizer

/-- The tokenizer of some settings. -/
def ofSettings (settings : LexingSettings) : Tokenizer :=
  ⟨.ofRules settings.rules, settings.rejectEmptyInput⟩

/-- The tokenizer of bare rules. -/
def ofRules (rules : List TokenRule) : Tokenizer :=
  ⟨.ofRules rules, false⟩

/-- The token of a lexeme, which the stream puts in its place. -/
def tokenOf (t : Tokenizer) (lexeme : String) : Token :=
  let c := t.classifier.classify lexeme
  ⟨c.kind, lexeme, 1, 0, c.priority⟩

/-- The tokens of a text. -/
def streamOf (t : Tokenizer) (input : String) : TokenStream :=
  .ofList ((lexemes input).map t.tokenOf)

/-- The tokens of a text, unless it has none and such texts are refused. -/
def tokenize (t : Tokenizer) (input : String) : Except LexingError TokenStream :=
  let stream := t.streamOf input
  if stream.isEmpty && t.rejectEmptyInput then .error .emptyInput else .ok stream

end Tokenizer

/-- The tokens of a text by bare rules; none should it be refused. -/
def tokenize (input : String) (rules : List TokenRule) : TokenStream :=
  ((Tokenizer.ofRules rules).tokenize input).toOption.getD .empty

/-- Bare rules refuse no text. -/
theorem tokenize_ofRules (input : String) (rules : List TokenRule) :
    (Tokenizer.ofRules rules).tokenize input = .ok (tokenize input rules) := by
  have accepted : (Tokenizer.ofRules rules).tokenize input =
      .ok ((Tokenizer.ofRules rules).streamOf input) := by
    simp [Tokenizer.tokenize, Tokenizer.ofRules]
  rw [tokenize, accepted]
  rfl

end GovernedExpr
