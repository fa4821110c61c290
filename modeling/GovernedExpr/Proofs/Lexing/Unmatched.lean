import GovernedExpr.Proofs.Governance.Explained
import GovernedExpr.Proofs.Governance.Keys
import GovernedExpr.Proofs.Pipeline.Emission

/-!
# Lexemes without a rule

A lexeme to which no rule applies is of unknown kind and has priority zero.  But a record may state
this priority for a kind, even for the unknown one.  Then tokens do not tell which lexemes are without a
rule.

* `TokenRule.counting?_eq_none_iff` says when no rule counts for a lexeme;
* `StageRecord.priorityOf?` is the priority that a record states for a kind;
  `StageRecord.priorityOf?_of_mem_rules` says that the rules of the record have these priorities, and
  `classify_cases` what this means for a lexeme;
* `priority_classify_eq_zero_iff` says which lexemes have priority zero, and when these are the ones
  without a rule;
* `not_forall_priority_eq_zero_iff` says that this is not always so.
-/

namespace GovernedExpr

open Text

/-! ### The rule that counts, if there is one -/

namespace TokenRule

variable {rules : List TokenRule} {lexeme : String}

/-- No rule counts if none applies. -/
theorem counting?_eq_none_iff :
    counting? rules lexeme = none ↔ ∀ r ∈ rules, r.applies lexeme = false := by
  simp only [counting?, Option.map_eq_none_iff, List.find?_eq_none, Bool.not_eq_true]
  constructor
  · intro none r hr
    obtain ⟨i, hi⟩ := List.getElem?_of_mem hr
    exact none (r, i + 1) (List.mem_mergeSort.2 (mem_zipIdx_one.2 ⟨i, rfl, hi⟩))
  · rintro none ⟨r, n⟩ hr
    obtain ⟨i, -, hi⟩ := mem_zipIdx_one.1 (List.mem_mergeSort.1 hr)
    exact none r (List.mem_of_getElem? hi)

/-- A lexeme has the kind and the priority of the rule that counts. -/
theorem classify_of_counting? {r : TokenRule} (h : counting? rules lexeme = some r) :
    ∃ n, (Classifier.ofRules rules).classify lexeme = ⟨r.kind, r.priority, some n⟩ := by
  obtain ⟨⟨s, n⟩, found, rfl⟩ := Option.map_eq_some_iff.1 h
  exact ⟨n, by rw [Classifier.classify_ofRules_eq, found]⟩

theorem classify_of_counting?_eq_none (h : counting? rules lexeme = none) :
    (Classifier.ofRules rules).classify lexeme = .unmatched := by
  rw [Classifier.classify_ofRules_eq, Option.map_eq_none_iff.1 h]
  rfl

end TokenRule

/-! ### The priorities that a record states -/

namespace StageRecord

variable {r : StageRecord} {settings : LexingSettings} {rule : TokenRule}

/-- The priority that a record states for a kind. -/
def priorityOf? (r : StageRecord) (kind : TokenKind) : Option Int :=
  (r.get? tokenPatterns (kind.name ++ "_PRIORITY")).bind fun text => Bounds.int32.read? (trim text)

theorem priorityOf?_of_tokenRule? {key pattern : String}
    (h : r.tokenRule? key pattern = .ok (some rule)) :
    r.priorityOf? rule.kind = some rule.priority := by
  unfold tokenRule? at h
  split at h
  · cases h
  next name stem =>
    split at h
    · cases h
    next kind named =>
      obtain ⟨text, required, read⟩ := bind_eq_ok_iff.1 h
      split at read
      next priority number =>
        cases read
        rw [priorityOf?, TokenKind.ofName?_eq_some_iff.1 named,
          GovernanceStore.require_eq_ok_iff.1 required, Option.bind_some, number]
      · cases read

/-- The rules of a record have the priorities that it states for their kinds. -/
theorem priorityOf?_of_mem_rules (h : r.lexingSettings = .ok settings) (hr : rule ∈ settings.rules) :
    r.priorityOf? rule.kind = some rule.priority := by
  simp only [lexingSettings, tokenRules, bind_eq_ok_iff, pure, Except.pure, Except.ok.injEq] at h
  obtain ⟨_, -, _, -, _, ⟨found, hfound, rfl⟩, _, -, _, -, rfl⟩ := h
  obtain ⟨_, member, rfl⟩ := List.mem_filterMap.1 hr
  obtain ⟨pair, -, hpair⟩ := (mem_iff_of_mapM_eq_ok hfound _).1 member
  exact priorityOf?_of_tokenRule? hpair

end StageRecord

/-! ### Priority zero -/

/-- A token has the kind and the priority that its word is classified to. -/
theorem Tokenizer.classify_of_mem_tokens {settings : LexingSettings} {source : String}
    {stream : TokenStream} {t : Token} (h : (ofSettings settings).tokenize source = .ok stream)
    (ht : t ∈ stream.tokens) :
    let c := (Classifier.ofRules settings.rules).classify t.value
    t.kind = c.kind ∧ t.priority = c.priority := by
  obtain ⟨rfl, -⟩ := tokenize_eq_ok_iff.1 h
  rw [ofSettings, streamOf_eq] at ht
  obtain ⟨i, lt, rfl⟩ := List.mem_mapIdx.1 ht
  exact ⟨rfl, rfl⟩

/-- Either no rule counts for a lexeme, or the rule that counts gives it its kind and the priority that
the record states for the kind. -/
theorem classify_cases {r : StageRecord} {settings : LexingSettings}
    (h : r.lexingSettings = .ok settings) (lexeme : String) :
    (TokenRule.counting? settings.rules lexeme = none ∧
      (Classifier.ofRules settings.rules).classify lexeme = ⟨.unknown, 0, none⟩) ∨
    ∃ rule n, TokenRule.counting? settings.rules lexeme = some rule ∧
      r.priorityOf? rule.kind = some rule.priority ∧
      (Classifier.ofRules settings.rules).classify lexeme = ⟨rule.kind, rule.priority, some n⟩ := by
  cases counts : TokenRule.counting? settings.rules lexeme with
  | none => exact .inl ⟨rfl, TokenRule.classify_of_counting?_eq_none counts⟩
  | some rule =>
    obtain ⟨n, classified⟩ := TokenRule.classify_of_counting? counts
    have stated := StageRecord.priorityOf?_of_mem_rules h (TokenRule.mem_of_counting? counts).1
    exact .inr ⟨rule, n, rfl, stated, classified⟩

/-- **Which lexemes have priority zero.**  A lexeme without a rule is of unknown kind and has priority
zero.  Other lexemes have it if the record states it for the kind of the rule that counts.  So if the
record states it for no kind, then priority zero means that there is no rule; and if it does not state
it for the unknown kind, then a token of unknown kind with priority zero stands for a word without a
rule. -/
theorem priority_classify_eq_zero_iff {r : StageRecord} {settings : LexingSettings}
    (h : r.lexingSettings = .ok settings) :
    (∀ lexeme, let c := (Classifier.ofRules settings.rules).classify lexeme
      (c.rule = none ↔ ∀ rule ∈ settings.rules, rule.applies lexeme = false) ∧
      (c.rule = none → c.kind = .unknown ∧ c.priority = 0) ∧
      (c.priority = 0 ↔ c.rule = none ∨ ∃ rule, TokenRule.counting? settings.rules lexeme = some rule ∧
        r.priorityOf? rule.kind = some 0)) ∧
    ((∀ kind, r.priorityOf? kind ≠ some 0) → ∀ lexeme,
      let c := (Classifier.ofRules settings.rules).classify lexeme
      c.priority = 0 ↔ c.rule = none) ∧
    (r.priorityOf? .unknown ≠ some 0 → ∀ source stream,
      (Tokenizer.ofSettings settings).tokenize source = .ok stream → ∀ t ∈ stream.tokens,
        (t.kind = .unknown ∧ t.priority = 0 ↔
          ∀ rule ∈ settings.rules, rule.applies t.value = false)) := by
  refine ⟨fun lexeme => ?_, fun none lexeme => ?_, fun unknown source stream tokenized t ht => ?_⟩
  · rw [← TokenRule.counting?_eq_none_iff]
    obtain ⟨counts, classified⟩ | ⟨rule, n, counts, stated, classified⟩ := classify_cases h lexeme
    · simp [classified, counts]
    · simp [classified, counts, stated]
  · obtain ⟨-, classified⟩ | ⟨rule, n, -, stated, classified⟩ := classify_cases h lexeme
    · simp [classified]
    · have nonzero : rule.priority ≠ 0 := fun zero => none rule.kind (zero ▸ stated)
      simp [classified, nonzero]
  · obtain ⟨kind, priority⟩ := Tokenizer.classify_of_mem_tokens tokenized ht
    rw [← TokenRule.counting?_eq_none_iff, kind, priority]
    obtain ⟨counts, classified⟩ | ⟨rule, n, counts, stated, classified⟩ := classify_cases h t.value
    · simp [classified, counts]
    · have nonzero (same : rule.kind = .unknown) : rule.priority ≠ 0 := fun zero =>
        unknown (by rw [← same, stated, zero])
      simpa [classified, counts] using nonzero

/-- A governance with a rule for words of unknown kind, which has priority zero. -/
def StageRecord.marks : StageRecord where
  stage := .tokenizer
  name := "TOKENIZER"
  alignment := "LEXICAL_ANALYSIS"
  version := initialVersion
  entries := [⟨tokenPatterns, "UNKNOWN_PATTERN", "[#@]+"⟩, ⟨tokenPatterns, "UNKNOWN_PRIORITY", "0"⟩]

/-- **Under some governance priority zero says nothing.**  A rule with this priority may apply, and a
token of unknown kind with this priority may stand for a word to which a rule applies. -/
theorem not_forall_priority_eq_zero_iff :
    (¬ ∀ (r : StageRecord) (settings : LexingSettings), r.lexingSettings = .ok settings →
      ∀ lexeme, let c := (Classifier.ofRules settings.rules).classify lexeme
        c.priority = 0 ↔ c.rule = none) ∧
    ¬ ∀ (r : StageRecord) (settings : LexingSettings), r.lexingSettings = .ok settings →
      ∀ source stream, (Tokenizer.ofSettings settings).tokenize source = .ok stream →
        ∀ t ∈ stream.tokens, t.kind = .unknown → t.priority = 0 →
          ∀ rule ∈ settings.rules, rule.applies t.value = false := by
  let rule : TokenRule := ⟨"[#@]+", .unknown, 0⟩
  have accepted : StageRecord.marks.lexingSettings = .ok ⟨[rule], false, true⟩ :=
    toOption_eq_some_iff.1 (by decide +kernel)
  have applies : rule.applies "@" = true := by decide +kernel
  constructor
  · intro law
    have classified : (Classifier.ofRules [rule]).classify "@" = ⟨.unknown, 0, some 1⟩ := by
      decide +kernel
    have unmatched := (law _ _ accepted "@").1 (by rw [classified])
    rw [classified] at unmatched
    cases unmatched
  · intro law
    have tokenized : (Tokenizer.ofSettings ⟨[rule], false, true⟩).tokenize "@ ?" =
        .ok ⟨[⟨.unknown, "@", 1, 1, 0⟩, ⟨.unknown, "?", 1, 2, 0⟩]⟩ :=
      toOption_eq_some_iff.1 (by decide +kernel)
    have fails := law _ _ accepted _ _ tokenized ⟨.unknown, "@", 1, 1, 0⟩ (by decide) rfl rfl rule
      (by decide)
    exact Bool.false_ne_true (fails.symm.trans applies)

/-- The built-in record states priority zero for no kind, so there it means that no rule applies; and
where it is the priority of numbers, it still does so for tokens of unknown kind. -/
theorem priority_classify_eq_zero_iff_numbers :
    let numbers : StageRecord := ((StageRecord.marks.add tokenPatterns "UNKNOWN_PRIORITY" "5").add
      tokenPatterns "NUMBER_PATTERN" "[0-9]+").add tokenPatterns "NUMBER_PRIORITY" " -00"
    let settings : LexingSettings := ⟨[⟨"[#@]+", .unknown, 5⟩, ⟨"[0-9]+", .number, 0⟩], false, true⟩
    ((builtinRecord .tokenizer).lexingSettings = .ok .builtin ∧
      (∀ kind, (builtinRecord .tokenizer).priorityOf? kind ≠ some 0) ∧
      ∀ lexeme, let c := (Classifier.ofRules LexingSettings.builtin.rules).classify lexeme
        c.priority = 0 ↔ c.rule = none) ∧
    numbers.lexingSettings = .ok settings ∧ numbers.priorityOf? .number = some 0 ∧
      numbers.priorityOf? .unknown ≠ some 0 ∧
      ∀ source stream, (Tokenizer.ofSettings settings).tokenize source = .ok stream →
        ∀ t ∈ stream.tokens, (t.kind = .unknown ∧ t.priority = 0 ↔
          ∀ rule ∈ settings.rules, rule.applies t.value = false) := by
  intro numbers settings
  have stated (kind : TokenKind) : (builtinRecord .tokenizer).priorityOf? kind ≠ some 0 := by
    cases kind <;> decide
  have accepted : numbers.lexingSettings = .ok settings := toOption_eq_some_iff.1 (by decide +kernel)
  have unknown : numbers.priorityOf? .unknown ≠ some 0 := by decide
  have number : numbers.priorityOf? .number = some 0 := by decide
  have builtin := (priority_classify_eq_zero_iff lexingSettings_builtinRecord).2.1 stated
  have tokens := (priority_classify_eq_zero_iff accepted).2.2 unknown
  exact ⟨⟨lexingSettings_builtinRecord, stated, builtin⟩, accepted, number, unknown, tokens⟩

end GovernedExpr
