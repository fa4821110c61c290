import GovernedExpr.Proofs.Governance.Explained
import GovernedExpr.Proofs.Governance.Keys

/-!
# The rules that a record states

A record states a rule for a kind of tokens by two keys of the section of patterns: one for the pattern and
one for the priority, each the name of the kind with an ending.  The keys of patterns decide which rules
there are and in which order; those of priorities may stand anywhere.

* `StageRecord.IsRule` says which rule belongs to a name, `StageRecord.Governs` that there is one, and
  `StageRecord.RuleFault` what is wrong if there is none;
* `StageRecord.tokenRules_eq_ok_iff` and `StageRecord.tokenRules_eq_error_iff` say so of all names of a
  record, `StageRecord.getFlag_eq_ok_iff` and `StageRecord.getFlag_eq_error_iff` of flags;
* `lexingSettings_exact` says which settings of tokenization a record gives, and what is wrong if it gives
  none.
-/

namespace GovernedExpr

open Text

theorem TokenKind.ofName?_eq_none_iff {name : String} :
    ofName? name = none ↔ ∀ kind : TokenKind, kind.name ≠ name := by
  simp only [Option.eq_none_iff_forall_ne_some, ne_eq, ofName?_eq_some_iff]

theorem TokenKind.name_injective : Function.Injective name := by
  intro a b h
  exact Option.some.inj (by rw [← ofName?_name a, h, ofName?_name])

namespace StageRecord

variable {r r' : StageRecord} {name pattern : String} {rule : TokenRule} {rules : List TokenRule}
  {e : GovernanceError} {settings : LexingSettings}

/-! ### The rule of a name -/

/-- The names of the keys of patterns, in the order in which these keys were first added. -/
def patternNames (r : StageRecord) : List String :=
  r.names tokenPatterns "_PATTERN"

/-- The rule is for the kind with the name, and it has the latest pattern and the latest priority. -/
structure IsRule (r : StageRecord) (name : String) (rule : TokenRule) : Prop where
  kind : rule.kind.name = name
  pattern : r.get? tokenPatterns (name ++ "_PATTERN") = some rule.pattern
  priority : ∃ text, r.get? tokenPatterns (name ++ "_PRIORITY") = some text ∧
    Bounds.int32.read? (trim text) = some rule.priority

/-- The name is that of a kind, and its latest priority is an integer of 32 bits. -/
def Governs (r : StageRecord) (name : String) : Prop :=
  (∃ kind : TokenKind, kind.name = name) ∧
    ∃ text, r.get? tokenPatterns (name ++ "_PRIORITY") = some text ∧
      ∃ priority, Bounds.int32.read? (trim text) = some priority

/-- What is wrong with a name that has a pattern, and no rule. -/
inductive RuleFault (r : StageRecord) (name : String) : GovernanceError → Prop
  /-- It is not the name of a kind. -/
  | kind (unknown : ∀ kind : TokenKind, kind.name ≠ name) : RuleFault r name (.unknownTokenKind name)
  /-- There is no priority. -/
  | missing {kind : TokenKind} (named : kind.name = name)
      (absent : r.get? tokenPatterns (name ++ "_PRIORITY") = none) :
      RuleFault r name (.missingKey r.stage tokenPatterns (name ++ "_PRIORITY"))
  /-- The priority is no integer of 32 bits. -/
  | priority {kind : TokenKind} {text : String} (named : kind.name = name)
      (found : r.get? tokenPatterns (name ++ "_PRIORITY") = some text)
      (unread : Bounds.int32.read? (trim text) = none) :
      RuleFault r name (.invalidValue r.stage tokenPatterns (name ++ "_PRIORITY") text .integer)

/-- The rule of a name with a pattern. -/
def ruleFor (r : StageRecord) : String × String → Except GovernanceError TokenRule
  | (name, pattern) =>
    match TokenKind.ofName? name with
    | none => .error (.unknownTokenKind name)
    | some kind => do
      let text ← r.require tokenPatterns (name ++ "_PRIORITY")
      match Bounds.int32.read? (trim text) with
      | some priority => .ok ⟨pattern, kind, priority⟩
      | none => .error (.invalidValue r.stage tokenPatterns (name ++ "_PRIORITY") text .integer)

/-- A name with a pattern has a rule, or something is wrong with it. -/
theorem ruleFor_cases (found : r.get? tokenPatterns (name ++ "_PATTERN") = some pattern) :
    (∃ rule, r.ruleFor (name, pattern) = .ok rule ∧ r.IsRule name rule) ∨
      ∃ e, r.ruleFor (name, pattern) = .error e ∧ r.RuleFault name e := by
  unfold ruleFor require
  dsimp only
  cases kindOf : TokenKind.ofName? name with
  | none => exact .inr ⟨_, rfl, .kind (TokenKind.ofName?_eq_none_iff.1 kindOf)⟩
  | some kind =>
    have named := TokenKind.ofName?_eq_some_iff.1 kindOf
    dsimp only
    cases text : r.get? tokenPatterns (name ++ "_PRIORITY") with
    | none => exact .inr ⟨_, rfl, .missing named text⟩
    | some text' =>
      simp only [bind, Except.bind]
      cases read : Bounds.int32.read? (trim text') with
      | none => exact .inr ⟨_, rfl, .priority named text read⟩
      | some priority => exact .inl ⟨_, rfl, named, found, text', text, read⟩

theorem IsRule.governs (h : r.IsRule name rule) : r.Governs name := by
  obtain ⟨text, found, read⟩ := h.priority
  exact ⟨⟨rule.kind, h.kind⟩, text, found, rule.priority, read⟩

theorem RuleFault.not_governs (h : r.RuleFault name e) : ¬ r.Governs name := by
  rintro ⟨⟨kind, named⟩, text, found, priority, read⟩
  cases h with
  | kind unknown => exact unknown kind named
  | missing _ absent => simp [absent] at found
  | priority _ found' unread =>
    obtain rfl := Option.some.inj (found'.symm.trans found)
    simp [unread] at read

theorem IsRule.unique {rule' : TokenRule} (h : r.IsRule name rule) (h' : r.IsRule name rule') :
    rule = rule' := by
  obtain ⟨pattern, kind, priority⟩ := rule
  obtain ⟨pattern', kind', priority'⟩ := rule'
  obtain ⟨text, found, read⟩ := h.priority
  obtain ⟨text', found', read'⟩ := h'.priority
  obtain rfl := Option.some.inj (found.symm.trans found')
  obtain rfl := TokenKind.name_injective (h.kind.trans h'.kind.symm)
  obtain rfl := Option.some.inj (h.pattern.symm.trans h'.pattern)
  obtain rfl := Option.some.inj (read.symm.trans read')
  rfl

theorem RuleFault.unique {e' : GovernanceError} (h : r.RuleFault name e) (h' : r.RuleFault name e') :
    e = e' := by
  cases h with
  | kind unknown =>
    cases h' with
    | kind => rfl
    | missing named | priority named => exact absurd named (unknown _)
  | missing named absent =>
    cases h' with
    | kind unknown => exact absurd named (unknown _)
    | missing => rfl
    | priority _ found => simp [absent] at found
  | priority named found unread =>
    cases h' with
    | kind unknown => exact absurd named (unknown _)
    | missing _ absent => simp [absent] at found
    | priority _ found' =>
      obtain rfl := Option.some.inj (found.symm.trans found')
      rfl

theorem ruleFor_eq_ok_iff (found : r.get? tokenPatterns (name ++ "_PATTERN") = some pattern) :
    r.ruleFor (name, pattern) = .ok rule ↔ r.IsRule name rule := by
  obtain ⟨rule', comes, isRule⟩ | ⟨e, comes, fault⟩ := ruleFor_cases found
  · rw [comes, Except.ok.injEq]
    exact ⟨fun same => same ▸ isRule, isRule.unique⟩
  · rw [comes]
    exact iff_of_false nofun fun isRule => fault.not_governs isRule.governs

theorem ruleFor_eq_error_iff (found : r.get? tokenPatterns (name ++ "_PATTERN") = some pattern) :
    r.ruleFor (name, pattern) = .error e ↔ r.RuleFault name e := by
  obtain ⟨rule', comes, isRule⟩ | ⟨e', comes, fault⟩ := ruleFor_cases found
  · rw [comes]
    exact iff_of_false nofun fun fault => fault.not_governs isRule.governs
  · rw [comes, Except.error.injEq]
    exact ⟨fun same => same ▸ fault, fault.unique⟩

/-! ### The rules of all names -/

theorem tokenRule?_of_stem_none {key : String} (stem : stemOf? "_PATTERN" key = none)
    (pattern : String) : r.tokenRule? key pattern = .ok none := by
  unfold tokenRule?
  rw [stem]

theorem tokenRule?_of_stem {key : String} (stem : stemOf? "_PATTERN" key = some name)
    (pattern : String) : r.tokenRule? key pattern = (r.ruleFor (name, pattern)).map some := by
  unfold tokenRule? ruleFor
  rw [stem]
  dsimp only
  cases TokenKind.ofName? name with
  | none => rfl
  | some kind =>
    dsimp only
    cases r.require tokenPatterns (name ++ "_PRIORITY") with
    | error e => rfl
    | ok text =>
      simp only [bind, Except.bind]
      cases Bounds.int32.read? (trim text) <;> rfl

/-- The loop over the keys of the section is one over the names with patterns. -/
theorem tokenRules_eq_mapM (r : StageRecord) :
    r.tokenRules = (r.named tokenPatterns "_PATTERN").mapM r.ruleFor := by
  unfold tokenRules named
  refine mapM_filterMap (fun pair passed => ?_) (fun pair named stays => ?_)
  · exact tokenRule?_of_stem_none (Option.map_eq_none_iff.1 passed) pair.2
  · obtain ⟨name, stem, rfl⟩ := Option.map_eq_some_iff.1 stays
    exact tokenRule?_of_stem stem pair.2

/-- A record gives rules if each name has one, in the order of the names. -/
theorem tokenRules_eq_ok_iff :
    r.tokenRules = .ok rules ↔ List.Forall₂ r.IsRule r.patternNames rules := by
  rw [tokenRules_eq_mapM, mapM_eq_ok_iff, patternNames, names, List.forall₂_map_left_iff]
  refine forall₂_congr_mem fun pair member rule => ?_
  exact ruleFor_eq_ok_iff (mem_named_iff.1 member).2

/-- A record gives no rules if something is wrong with a name. -/
theorem tokenRules_eq_error_iff :
    r.tokenRules = .error e ↔ FirstFault r.RuleFault r.patternNames e := by
  rw [tokenRules_eq_mapM, mapM_eq_error_iff, patternNames, names, firstFault_map]
  refine firstFault_congr fun pair member e => ?_
  exact ruleFor_eq_error_iff (mem_named_iff.1 member).2

/-- A record gives rules if it governs each name. -/
theorem exists_tokenRules_eq_ok_iff :
    (∃ rules, r.tokenRules = .ok rules) ↔ ∀ name ∈ r.patternNames, r.Governs name := by
  rw [tokenRules_eq_mapM, exists_mapM_eq_ok_iff, patternNames, names, List.forall_mem_map]
  refine forall₂_congr fun pair member => ?_
  have found := (mem_named_iff.1 member).2
  obtain ⟨rule, comes, isRule⟩ | ⟨e, comes, fault⟩ := ruleFor_cases found
  · exact iff_of_true ⟨rule, comes⟩ isRule.governs
  · exact iff_of_false (by simp [comes]) fault.not_governs

/-- No two rules are for the same kind, since no two names are the same. -/
theorem nodup_kinds (h : List.Forall₂ r.IsRule r.patternNames rules) :
    (rules.map TokenRule.kind).Nodup := by
  have named : List.Forall₂ (fun name kind => TokenKind.name kind = name) r.patternNames
      (rules.map TokenRule.kind) :=
    List.forall₂_map_right_iff.2 (h.imp fun _ _ isRule => isRule.kind)
  refine (List.rel_nodup ⟨fun name name' kind h h' => h.symm.trans h', fun name kind kind' h h' => ?_⟩
    named).1 nodup_names
  exact TokenKind.name_injective (h.trans h'.symm)

/-! ### Flags -/

/-- A flag is absent or has a truth value. -/
def FlagIsValid (r : StageRecord) (heading key : String) : Prop :=
  ∀ text, r.get? heading key = some text → ∃ b, flagOf? text = some b

/-- The latest value of a flag is no truth value. -/
def FlagFault (r : StageRecord) (heading key : String) (e : GovernanceError) : Prop :=
  ∃ text, r.get? heading key = some text ∧ flagOf? text = none ∧
    e = .invalidValue r.stage heading key text .boolean

variable {heading key : String}

theorem getFlag_eq_ok_iff {value : Option Bool} : r.getFlag heading key = .ok value ↔
    r.FlagIsValid heading key ∧ (r.get? heading key).bind flagOf? = value := by
  unfold getFlag getAs FlagIsValid
  cases r.get? heading key with
  | none => simp
  | some text => cases h : flagOf? text <;> simp [h]

theorem getFlag_eq_error_iff : r.getFlag heading key = .error e ↔ r.FlagFault heading key e := by
  unfold getFlag getAs FlagFault
  cases r.get? heading key with
  | none => simp
  | some text => cases h : flagOf? text <;> simp [h, eq_comm]

theorem flagIsValid_iff : r.FlagIsValid heading key ↔ ∀ e, ¬ r.FlagFault heading key e := by
  simp only [← getFlag_eq_error_iff]
  rw [forall_not_error_iff]
  simp [getFlag_eq_ok_iff]

/-! ### The settings of tokenization -/

/-- The keys of the flags of tokenization, in the order in which they are read. -/
def lexingFlags : List String := ["reject_empty_input", "error_recovery"]

theorem lexingSettings_eq (stage : r.stage = .tokenizer) (present : r.hasSection tokenPatterns = true) :
    r.lexingSettings = (do
      let rules ← r.tokenRules
      let rejectEmptyInput ← r.getFlag dfaConfiguration "reject_empty_input"
      let errorRecovery ← r.getFlag dfaConfiguration "error_recovery"
      return ⟨rules, rejectEmptyInput.getD false, errorRecovery.getD true⟩) := by
  unfold lexingSettings expectStage requireSection
  rw [if_pos stage, if_pos present]
  rfl

theorem lexingSettings_eq_ok_iff (stage : r.stage = .tokenizer)
    (present : r.hasSection tokenPatterns = true) :
    r.lexingSettings = .ok settings ↔
      List.Forall₂ r.IsRule r.patternNames settings.rules ∧
      (∀ key ∈ lexingFlags, r.FlagIsValid dfaConfiguration key) ∧
      settings.rejectEmptyInput =
        ((r.get? dfaConfiguration "reject_empty_input").bind flagOf?).getD false ∧
      settings.errorRecovery =
        ((r.get? dfaConfiguration "error_recovery").bind flagOf?).getD true := by
  obtain ⟨rules, rejectEmptyInput, errorRecovery⟩ := settings
  simp only [lexingSettings_eq stage present, bind_eq_ok_iff, tokenRules_eq_ok_iff, getFlag_eq_ok_iff,
    pure, Except.pure, Except.ok.injEq, LexingSettings.mk.injEq, lexingFlags, List.forall_mem_cons,
    List.not_mem_nil, false_imp_iff, implies_true, and_true]
  constructor
  · rintro ⟨rules, isRule, _, ⟨reject, rfl⟩, _, ⟨recovery, rfl⟩, rfl, rfl, rfl⟩
    exact ⟨isRule, ⟨reject, recovery⟩, rfl, rfl⟩
  · rintro ⟨isRule, ⟨reject, recovery⟩, rfl, rfl⟩
    exact ⟨rules, isRule, _, ⟨reject, rfl⟩, _, ⟨recovery, rfl⟩, rfl, rfl, rfl⟩

theorem lexingSettings_eq_error_iff (stage : r.stage = .tokenizer)
    (present : r.hasSection tokenPatterns = true) :
    r.lexingSettings = .error e ↔
      FirstFault r.RuleFault r.patternNames e ∨
      (∀ name ∈ r.patternNames, r.Governs name) ∧
        FirstFault (r.FlagFault dfaConfiguration) lexingFlags e := by
  simp only [lexingSettings_eq stage present, bind_eq_error_iff, tokenRules_eq_error_iff,
    getFlag_eq_error_iff, pure, Except.pure, reduceCtorEq, and_false, exists_false, or_false,
    exists_and_right, exists_tokenRules_eq_ok_iff, lexingFlags, firstFault_cons, not_firstFault_nil,
    ← flagIsValid_iff]
  simp [getFlag_eq_ok_iff]

/-! ### What else a record says -/

/-- Two records of the tokenizer that have the same keys of patterns, in the same order, and the same
latest values of these keys, of the priorities that belong to them and of the flags. -/
structure LexesLike (r r' : StageRecord) : Prop where
  stage : r'.stage = .tokenizer
  present : r'.hasSection tokenPatterns = true
  names : r'.patternNames = r.patternNames
  values : ∀ name ∈ r.patternNames, ∀ ending ∈ ["_PATTERN", "_PRIORITY"],
    r'.get? tokenPatterns (name ++ ending) = r.get? tokenPatterns (name ++ ending)
  flags : ∀ key ∈ lexingFlags, r'.get? dfaConfiguration key = r.get? dfaConfiguration key

/-- Nothing else matters for the settings. -/
theorem LexesLike.lexingSettings_eq (h : r.LexesLike r') (stage : r.stage = .tokenizer)
    (present : r.hasSection tokenPatterns = true) : r'.lexingSettings = r.lexingSettings := by
  have rules : r'.tokenRules = r.tokenRules := by
    have loop (s : StageRecord) : s.tokenRules = s.patternNames.mapM fun name =>
        s.ruleFor (name, (s.get? tokenPatterns (name ++ "_PATTERN")).getD "") := by
      rw [tokenRules_eq_mapM, named_eq_map, List.mapM_map]
      rfl
    rw [loop, loop, h.names]
    refine mapM_congr_mem fun name member => ?_
    unfold ruleFor require
    dsimp only
    rw [h.stage, stage, h.values name member "_PATTERN" (by decide),
      h.values name member "_PRIORITY" (by decide)]
  have flag (key : String) (member : key ∈ lexingFlags) :
      r'.getFlag dfaConfiguration key = r.getFlag dfaConfiguration key := by
    unfold getFlag getAs
    rw [h.flags key member, h.stage, stage]
  rw [StageRecord.lexingSettings_eq h.stage h.present, StageRecord.lexingSettings_eq stage present,
    rules, flag "reject_empty_input" (by decide), flag "error_recovery" (by decide)]

end StageRecord

open StageRecord in
/-- **Which settings of tokenization a record gives.**  The keys `X_PATTERN` for names `X` in capitals
decide, in the order in which they were first added.  A record gives settings if and only if each such name
is that of a kind, its latest priority is there and is an integer of 32 bits, and the flags are absent or
truth values.  Then there is one rule for each name, in this order, with the latest pattern and the latest
priority, and no two rules are for the same kind.  Otherwise the error is that of the first name that has no
rule, or that of the first flag if all names have rules.  Other keys do not matter. -/
theorem lexingSettings_exact {r : StageRecord} (stage : r.stage = .tokenizer)
    (present : r.hasSection tokenPatterns = true) :
    ((∀ name, name ∈ r.patternNames ↔ isCapitalName name.toList = true ∧
        ∃ pattern, r.get? tokenPatterns (name ++ "_PATTERN") = some pattern) ∧
      (r.patternNames.map (· ++ "_PATTERN")).Sublist (r.addedKeys tokenPatterns).eraseDups) ∧
    ((∃ settings, r.lexingSettings = .ok settings) ↔
      (∀ name ∈ r.patternNames, r.Governs name) ∧
        ∀ key ∈ lexingFlags, r.FlagIsValid dfaConfiguration key) ∧
    (∀ settings, r.lexingSettings = .ok settings →
      List.Forall₂ r.IsRule r.patternNames settings.rules ∧
      (settings.rules.map TokenRule.kind).Nodup ∧
      settings.rejectEmptyInput =
        ((r.get? dfaConfiguration "reject_empty_input").bind flagOf?).getD false ∧
      settings.errorRecovery =
        ((r.get? dfaConfiguration "error_recovery").bind flagOf?).getD true) ∧
    (∀ e, r.lexingSettings = .error e ↔
      FirstFault r.RuleFault r.patternNames e ∨
      (∀ name ∈ r.patternNames, r.Governs name) ∧
        FirstFault (r.FlagFault dfaConfiguration) lexingFlags e) ∧
    ∀ r', r.LexesLike r' → r'.lexingSettings = r.lexingSettings := by
  have comes (settings : LexingSettings) := @lexingSettings_eq_ok_iff r settings stage present
  refine ⟨⟨fun name => mem_names_iff, map_names_sublist⟩, ?_, fun settings h => ?_,
    fun e => lexingSettings_eq_error_iff stage present,
    fun r' like => like.lexingSettings_eq stage present⟩
  · rw [← exists_tokenRules_eq_ok_iff]
    simp only [comes, tokenRules_eq_ok_iff]
    constructor
    · rintro ⟨settings, isRule, flags, -, -⟩
      exact ⟨⟨settings.rules, isRule⟩, flags⟩
    · rintro ⟨⟨rules, isRule⟩, flags⟩
      exact ⟨⟨rules, _, _⟩, isRule, flags, rfl, rfl⟩
  · obtain ⟨isRule, -, reject, recovery⟩ := (comes settings).1 h
    exact ⟨isRule, nodup_kinds isRule, reject, recovery⟩

/-- A record whose keys of tokenization stand in no order: a priority in front of its pattern and one long
after it, a priority without a pattern, keys that are written over, and one that is no name in capitals. -/
def StageRecord.scattered : StageRecord where
  stage := .tokenizer
  name := "TOKENIZER"
  alignment := "LEXICAL_ANALYSIS"
  version := initialVersion
  entries := [⟨tokenPatterns, "NUMBER_PRIORITY", "high"⟩, ⟨tokenPatterns, "OPERATOR_PRIORITY", "?"⟩,
    ⟨tokenPatterns, "IDENTIFIER_PATTERN", "[0-9]"⟩, ⟨tokenPatterns, "word_PATTERN", "("⟩,
    ⟨tokenPatterns, "NUMBER_PATTERN", "[0-9]+"⟩, ⟨dfaConfiguration, "reject_empty_input", " ON "⟩,
    ⟨tokenPatterns, "IDENTIFIER_PATTERN", "[a-z]+"⟩, ⟨tokenPatterns, "IDENTIFIER_PRIORITY", "-1"⟩,
    ⟨tokenPatterns, "NUMBER_PRIORITY", " +07 "⟩]

/-- Such a record gives two rules; with a pattern for a name that is not that of a kind it gives none. -/
theorem lexingSettings_exact_scattered :
    let r := StageRecord.scattered
    let r' := r.add tokenPatterns "NUMBER_PATTERN_PATTERN" "x"
    let settings : LexingSettings := ⟨[⟨"[a-z]+", .identifier, -1⟩, ⟨"[0-9]+", .number, 7⟩], true, true⟩
    (r.stage = .tokenizer ∧ r.hasSection tokenPatterns = true ∧ r.lexingSettings = .ok settings ∧
      List.Forall₂ r.IsRule ["IDENTIFIER", "NUMBER"] settings.rules) ∧
    r'.stage = .tokenizer ∧ r'.hasSection tokenPatterns = true ∧
      r'.lexingSettings = .error (.unknownTokenKind "NUMBER_PATTERN") ∧
      ¬ ((∀ name ∈ ["IDENTIFIER", "NUMBER", "NUMBER_PATTERN"], r'.Governs name) ∧
        ∀ key ∈ StageRecord.lexingFlags, r'.FlagIsValid dfaConfiguration key) := by
  intro r r' settings
  have present : r.hasSection tokenPatterns = true := by decide +kernel
  have accepted : r.lexingSettings = .ok settings := toOption_eq_some_iff.1 (by decide +kernel)
  have names : r.patternNames = ["IDENTIFIER", "NUMBER"] := by decide +kernel
  have rules := ((lexingSettings_exact rfl present).2.2.1 settings accepted).1
  rw [names] at rules
  have present' : r'.hasSection tokenPatterns = true := by decide +kernel
  have names' : r'.patternNames = ["IDENTIFIER", "NUMBER", "NUMBER_PATTERN"] := by decide +kernel
  have refused : r'.lexingSettings = .error (.unknownTokenKind "NUMBER_PATTERN") := by decide +kernel
  have governed := (lexingSettings_exact rfl present').2.1
  rw [names', refused] at governed
  exact ⟨⟨rfl, present, accepted, rules⟩, rfl, present', refused, fun all =>
    (governed.2 all).elim nofun⟩

end GovernedExpr
