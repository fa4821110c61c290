import GovernedExpr.Lexing.Token
import GovernedExpr.Pattern.Cost

/-!
# Classification of lexemes

A rule gives a kind and a priority to the lexemes that its pattern matches.  Of the rules that
match a lexeme the one of the greatest priority counts, and of several such rules the first.

* `TokenRule` is a rule, `CompiledRule` a rule with its number and its pattern as read;
* `Classifier.ofRules` numbers rules from 1; a pattern that cannot be read matches nothing, and
  its rule is listed by `Classifier.diagnostics`;
* `Classifier.classify` classifies a lexeme; a lexeme without a rule is of unknown kind.
-/

namespace GovernedExpr

/-- A rule that classifies lexemes. -/
structure TokenRule where
  pattern : String
  kind : TokenKind
  priority : Int
  deriving DecidableEq, Inhabited

namespace TokenRule

/-- The text of a pattern that has to match from the start of a lexeme to its end. -/
def anchored (pattern : String) : List Char :=
  "^(?:".toList ++ pattern.toList ++ ")$".toList

/-- The pattern of a rule, if it can be read. -/
def compile (r : TokenRule) : Option Pattern :=
  Pattern.ofText? (anchored r.pattern)

end TokenRule

/-- A rule with its number, and with its pattern if that can be read. -/
structure CompiledRule where
  number : Nat
  rule : TokenRule
  matcher : Option Pattern

/-- Whether a rule applies to a lexeme. -/
def CompiledRule.applies (r : CompiledRule) (lexeme : List Char) : Bool :=
  r.matcher.any fun p => p.isMatch lexeme

/-- The kind and the priority of a lexeme, and the number of the rule that gives them. -/
structure Classification where
  kind : TokenKind
  priority : Int
  rule : Option Nat
  deriving DecidableEq

namespace Classification

/-- A lexeme to which no rule applies. -/
def unmatched : Classification := ⟨.unknown, 0, none⟩

/-- What a rule says of the lexemes to which it applies. -/
def ofRule (r : CompiledRule) : Classification :=
  ⟨r.rule.kind, r.rule.priority, some r.number⟩

end Classification

/-- Rules in the order in which they were given. -/
structure Classifier where
  rules : List CompiledRule

namespace Classifier

/-- Number rules from 1 and read their patterns. -/
def ofRules (rules : List TokenRule) : Classifier :=
  ⟨rules.mapIdx fun i r => ⟨i + 1, r, r.compile⟩⟩

/-- The better of a rule found before and a later one, which has to have a greater priority. -/
def better (found : Option CompiledRule) (r : CompiledRule) : Option CompiledRule :=
  match found with
  | none => some r
  | some best => if r.rule.priority ≤ best.rule.priority then some best else some r

/-- The rule that counts for a lexeme. -/
def winner? (c : Classifier) (lexeme : String) : Option CompiledRule :=
  (c.rules.filter fun r => r.applies lexeme.toList).foldl better none

/-- Classify a lexeme. -/
def classify (c : Classifier) (lexeme : String) : Classification :=
  match c.winner? lexeme with
  | some r => .ofRule r
  | none => .unmatched

/-- The rules whose patterns cannot be read. -/
def diagnostics (c : Classifier) : List CompiledRule :=
  c.rules.filter fun r => r.matcher.isNone

end Classifier

/-- Classify a lexeme by rules. -/
def classify (lexeme : String) (rules : List TokenRule) : Classification :=
  (Classifier.ofRules rules).classify lexeme

end GovernedExpr
