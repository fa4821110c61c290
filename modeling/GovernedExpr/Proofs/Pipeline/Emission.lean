import GovernedExpr.Proofs.Lexing.FullMatch
import GovernedExpr.Proofs.Lexing.Spacing
import GovernedExpr.Proofs.Pattern.Stretches
import GovernedExpr.Proofs.Pipeline.Stages

/-!
# Tokens for blanks

Blanks only divide words, so no token should be one for blanks, although there may be a rule for them.
But a token gets the kind of the rule that counts for its word, whatever that kind is.

* `TokenRule.counting?` is the rule that counts for a word, and `Tokenizer.word_of_mem_tokens` says what
  this means for the tokens of a text;
* `TokenRule.staysOffWords` is a check for rules that apply to no word, such as the built-in rule for
  blanks;
* `kind_eq_whitespace_iff` says which rules have tokens for blanks, and that there are none if the
  rules for blanks stay off words;
* `not_forall_kind_ne_whitespace` says that this may not be left out.
-/

namespace GovernedExpr

open Text

namespace TokenRule

/-- The rule that counts for a lexeme: of those that apply, the first one of the greatest priority. -/
def counting? (rules : List TokenRule) (lexeme : String) : Option TokenRule :=
  ((byPriority rules).find? fun r => r.1.applies lexeme).map Prod.fst

variable {rules : List TokenRule} {r : TokenRule} {lexeme : String}

/-- The rule that counts is one of the rules, and applies. -/
theorem mem_of_counting? (h : counting? rules lexeme = some r) :
    r ∈ rules ∧ r.applies lexeme = true := by
  obtain ⟨⟨s, n⟩, found, rfl⟩ := Option.map_eq_some_iff.1 h
  obtain ⟨i, -, hi⟩ := mem_zipIdx_one.1 (List.mem_mergeSort.1 (List.mem_of_find?_eq_some found))
  have applies := List.find?_some found
  exact ⟨List.mem_of_getElem? hi, applies⟩

/-- A lexeme is of the kind for blanks if the rule that counts is, since it is of unknown kind if
there is none. -/
theorem kind_classify_eq_whitespace_iff :
    ((Classifier.ofRules rules).classify lexeme).kind = .whitespace ↔
      ∃ r, counting? rules lexeme = some r ∧ r.kind = .whitespace := by
  rw [Classifier.classify_ofRules_eq, counting?]
  cases (byPriority rules).find? fun r => r.1.applies lexeme with
  | none => simp
  | some s => simp

/-! ### Rules that stay off words -/

/-- Whether a rule has a pattern that stays together between anchors and reads blanks only. -/
def staysOffWords (r : TokenRule) : Bool :=
  decide (IsSelfContained r.pattern.toList) &&
    (Pattern.ofText? r.pattern.toList).all Pattern.readsBlanks

/-- A pattern of blanks that matched a word would have to read its first character. -/
theorem not_applies_of_staysOffWords (h : r.staysOffWords = true) (isWord : IsWord lexeme.toList) :
    r.applies lexeme = false := by
  obtain ⟨contained, blanks⟩ := Bool.and_eq_true_iff.1 h
  rw [applies_eq_matchesWhole (of_decide_eq_true contained), matchesWhole]
  cases hp : Pattern.ofText? r.pattern.toList with
  | none => rfl
  | some p =>
    rw [hp, Option.all_some] at blanks
    rw [Option.any_some, ← Bool.not_eq_true]
    intro matched
    obtain ⟨c, hc⟩ := List.exists_mem_of_ne_nil _ isWord.ne_nil
    have blank := Pattern.isBlank_of_isFullMatch blanks matched hc
    rw [isWord.not_isBlank c hc] at blank
    cases blank

end TokenRule

/-! ### The tokens of a text -/

namespace Tokenizer

variable {settings : LexingSettings} {input word : String} {stream : TokenStream}

/-- A token stands for a word of the text and has its kind. -/
theorem word_of_mem_tokens {t : Token} (h : (ofSettings settings).tokenize input = .ok stream)
    (ht : t ∈ stream.tokens) : IsWord t.value.toList ∧
      t.kind = ((Classifier.ofRules settings.rules).classify t.value).kind := by
  obtain ⟨rfl, -⟩ := tokenize_eq_ok_iff.1 h
  rw [ofSettings, streamOf_eq] at ht
  obtain ⟨i, lt, rfl⟩ := List.mem_mapIdx.1 ht
  exact ⟨isWord_of_mem_lexemes (List.getElem_mem lt), rfl⟩

/-- A word is a text with one token, which stands for the word. -/
theorem exists_token_of_isWord (settings : LexingSettings) (isWord : IsWord word.toList) :
    ∃ stream t, (ofSettings settings).tokenize word = .ok stream ∧ t ∈ stream.tokens ∧
      t.value = word := by
  have alone : (ofSettings settings).streamOf word = .ofList [(ofSettings settings).tokenOf word] := by
    rw [streamOf, lexemes, isWord.lexemesOf_eq]
    simp
  refine ⟨_, _, tokenize_eq_ok_iff.2 ⟨alone, fun isEmpty => ?_⟩, List.mem_singleton_self _, rfl⟩
  cases isEmpty

end Tokenizer

/-- **When there are tokens for blanks.**  A token is one for blanks if the rule that counts for its
word is one for blanks.  So some text has such a token if and only if such a rule counts for some word,
and there is none if the rules for blanks stay off words, whatever the priorities and the other rules
are. -/
theorem kind_eq_whitespace_iff (settings : LexingSettings) :
    (∀ input stream, (Tokenizer.ofSettings settings).tokenize input = .ok stream →
      ∀ t ∈ stream.tokens, IsWord t.value.toList ∧ (t.kind = .whitespace ↔
        ∃ r, TokenRule.counting? settings.rules t.value = some r ∧ r.kind = .whitespace)) ∧
    ((∃ input stream, (Tokenizer.ofSettings settings).tokenize input = .ok stream ∧
        ∃ t ∈ stream.tokens, t.kind = .whitespace) ↔
      ∃ word r, IsWord word.toList ∧ TokenRule.counting? settings.rules word = some r ∧
        r.kind = .whitespace) ∧
    ((∀ r ∈ settings.rules, r.kind = .whitespace → r.staysOffWords = true) →
      ∀ input stream, (Tokenizer.ofSettings settings).tokenize input = .ok stream →
        ∀ t ∈ stream.tokens, t.kind ≠ .whitespace) := by
  have tokens {input : String} {stream : TokenStream} {t : Token}
      (h : (Tokenizer.ofSettings settings).tokenize input = .ok stream) (ht : t ∈ stream.tokens) :
      IsWord t.value.toList ∧ (t.kind = .whitespace ↔
        ∃ r, TokenRule.counting? settings.rules t.value = some r ∧ r.kind = .whitespace) := by
    obtain ⟨isWord, kind⟩ := Tokenizer.word_of_mem_tokens h ht
    rw [kind]
    exact ⟨isWord, TokenRule.kind_classify_eq_whitespace_iff⟩
  refine ⟨fun input stream h t ht => tokens h ht, ⟨?_, ?_⟩, ?_⟩
  · rintro ⟨input, stream, h, t, ht, whitespace⟩
    obtain ⟨isWord, kind⟩ := tokens h ht
    obtain ⟨r, hr, blank⟩ := kind.1 whitespace
    exact ⟨t.value, r, isWord, hr, blank⟩
  · rintro ⟨word, r, isWord, hr, blank⟩
    obtain ⟨stream, t, h, ht, rfl⟩ := Tokenizer.exists_token_of_isWord settings isWord
    exact ⟨t.value, stream, h, t, ht, (tokens h ht).2.2 ⟨r, hr, blank⟩⟩
  · intro off input stream h t ht whitespace
    obtain ⟨isWord, kind⟩ := tokens h ht
    obtain ⟨r, hr, blank⟩ := kind.1 whitespace
    obtain ⟨member, applies⟩ := TokenRule.mem_of_counting? hr
    rw [TokenRule.not_applies_of_staysOffWords (off r member blank) isWord] at applies
    cases applies

/-- The built-in settings of tokenization. -/
def LexingSettings.builtin : LexingSettings where
  rules := [⟨"^[a-zA-Z_]\\w*$", .identifier, 100⟩, ⟨"^\\d+(\\.\\d+)?$", .number, 90⟩,
    ⟨"^[+\\-*/=<>!&|]$", .operator, 80⟩, ⟨"^\\s+$", .whitespace, 10⟩]
  rejectEmptyInput := false
  errorRecovery := true

/-- The built-in record gives the built-in settings. -/
theorem lexingSettings_builtinRecord : (builtinRecord .tokenizer).lexingSettings = .ok .builtin :=
  toOption_eq_some_iff.1 (by decide +kernel)

/-- The built-in rule for blanks stays off words, so no text has a token for blanks under the built-in
rules. -/
theorem kind_eq_whitespace_iff_builtin :
    (builtinRecord .tokenizer).lexingSettings = .ok .builtin ∧
    (∀ r ∈ LexingSettings.builtin.rules, r.kind = .whitespace → r.staysOffWords = true) ∧
    ∀ input stream, (Tokenizer.ofSettings .builtin).tokenize input = .ok stream →
      ∀ t ∈ stream.tokens, t.kind ≠ .whitespace := by
  have off : ∀ r ∈ LexingSettings.builtin.rules, r.kind = .whitespace → r.staysOffWords = true := by
    decide +kernel
  exact ⟨toOption_eq_some_iff.1 (by decide +kernel), off,
    (kind_eq_whitespace_iff .builtin).2.2 off⟩

/-- A governance of words in which commas count as blanks. -/
def StageRecord.commas : StageRecord where
  stage := .tokenizer
  name := "TOKENIZER"
  alignment := "LEXICAL_ANALYSIS"
  version := initialVersion
  entries := [⟨tokenPatterns, "IDENTIFIER_PATTERN", "[a-z]+"⟩,
    ⟨tokenPatterns, "IDENTIFIER_PRIORITY", "100"⟩,
    ⟨tokenPatterns, "WHITESPACE_PATTERN", "[\\s,]+"⟩,
    ⟨tokenPatterns, "WHITESPACE_PRIORITY", "10"⟩]

/-- **Some governance has tokens for blanks**, such as one in which commas count as blanks. -/
theorem not_forall_kind_ne_whitespace :
    ¬ ∀ (s : GovernanceStore) (source : String) (stream : TokenStream),
      s.tokenize source = .ok stream → ∀ t ∈ stream.tokens, t.kind ≠ .whitespace := by
  intro law
  have tokenized : (GovernanceStore.empty.insert .commas).tokenize "a , b" =
      .ok ⟨[⟨.identifier, "a", 1, 1, 100⟩, ⟨.whitespace, ",", 1, 2, 10⟩,
        ⟨.identifier, "b", 1, 3, 100⟩]⟩ :=
    toOption_eq_some_iff.1 (by decide +kernel)
  exact law _ _ _ tokenized ⟨.whitespace, ",", 1, 2, 10⟩ (by decide) rfl

end GovernedExpr
