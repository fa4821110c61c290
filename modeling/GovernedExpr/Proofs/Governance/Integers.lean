import GovernedExpr.Proofs.Governance.PatternKeys
import GovernedExpr.Proofs.Governance.PrecedenceKeys
import GovernedExpr.Proofs.Text.Numerals

/-!
# Integers in a record

An integer under a key is read as one of 64 bits when it is asked for, as one of 32 bits when it is a priority,
and as a byte when it is a level.  These readings describe the same numbers: a priority or a level is accepted
if the integer that is found lies within its bounds, and it is that integer then.

* `StageRecord.HasInt` says which integer within bounds is found under a key, and `StageRecord.hasInt_iff` that
  it is the one that is read within these bounds;
* `StageRecord.isRule_iff`, `StageRecord.governs_iff`, `StageRecord.statesLevel_iff` and
  `StageRecord.statesLevels_iff` say what this means for rules and levels;
* `StageRecord.lexingSettings_add_priority` says that a priority without a pattern is not read;
* `integers_agree` says what all this means for the settings that a record gives.
-/

namespace GovernedExpr

open Text

namespace StageRecord

variable {r : StageRecord} {heading key name pattern symbol : String} {kind : TokenKind} {b : Bounds}
  {n : Int} {level : Nat}

/-- The integer that is found under a key lies within bounds. -/
def HasInt (r : StageRecord) (heading key : String) (b : Bounds) (n : Int) : Prop :=
  r.getInt heading key = .ok (some n) ∧ b.least ≤ n ∧ n ≤ b.greatest

theorem getInt_eq_ok_some_iff : r.getInt heading key = .ok (some n) ↔
    ∃ text, r.get? heading key = some text ∧ Bounds.int64.read? (trim text) = some n := by
  unfold getInt getAs
  cases r.get? heading key with
  | none => simp
  | some text => cases h : Bounds.int64.read? (trim text) <;> simp [h]

/-- The integer within bounds that is found is the one that is read within these bounds. -/
theorem hasInt_iff (low : Bounds.int64.least ≤ b.least) (high : b.greatest ≤ Bounds.int64.greatest)
    (h : b.least ≠ 0) : r.HasInt heading key b n ↔
      ∃ text, r.get? heading key = some text ∧ b.read? (trim text) = some n := by
  unfold HasInt
  rw [getInt_eq_ok_some_iff]
  simp only [Bounds.read?_eq_some_iff_of_le low high h (by decide)]
  constructor
  · rintro ⟨⟨text, found, read⟩, within⟩
    exact ⟨text, found, read, within⟩
  · rintro ⟨text, found, read, within⟩
    exact ⟨⟨text, found, read⟩, within⟩

/-- Where no integer within bounds is found, none is read within these bounds. -/
theorem read?_eq_none_of_not_hasInt (low : Bounds.int64.least ≤ b.least)
    (high : b.greatest ≤ Bounds.int64.greatest) (h : b.least ≠ 0) {text : String}
    (found : r.get? heading key = some text) (outside : ∀ n, ¬ r.HasInt heading key b n) :
    b.read? (trim text) = none := by
  refine Option.eq_none_iff_forall_ne_some.2 fun n read => outside n ?_
  exact (hasInt_iff low high h).2 ⟨text, found, read⟩

theorem hasInt_int32_iff : r.HasInt heading key .int32 n ↔
    ∃ text, r.get? heading key = some text ∧ Bounds.int32.read? (trim text) = some n :=
  hasInt_iff (by decide) (by decide) (by decide)

theorem hasInt_levelBounds_iff : r.HasInt heading key levelBounds n ↔
    ∃ text, r.get? heading key = some text ∧ levelBounds.read? (trim text) = some n :=
  hasInt_iff (by decide) (by decide) (by decide)

/-! ### Priorities -/

theorem isRule_iff : r.IsRule kind.name ⟨pattern, kind, n⟩ ↔
    r.get? tokenPatterns (kind.name ++ "_PATTERN") = some pattern ∧
      r.HasInt tokenPatterns (kind.name ++ "_PRIORITY") .int32 n := by
  rw [hasInt_int32_iff]
  exact ⟨fun h => ⟨h.pattern, h.priority⟩, fun h => ⟨rfl, h.1, h.2⟩⟩

theorem governs_iff : r.Governs name ↔ (∃ kind : TokenKind, kind.name = name) ∧
    ∃ n, r.HasInt tokenPatterns (name ++ "_PRIORITY") .int32 n := by
  simp only [hasInt_int32_iff]
  unfold Governs
  refine and_congr_right fun _ => ⟨?_, ?_⟩
  · rintro ⟨text, found, n, read⟩
    exact ⟨n, text, found, read⟩
  · rintro ⟨n, text, found, read⟩
    exact ⟨text, found, n, read⟩

theorem isCapitalName_name (kind : TokenKind) : isCapitalName kind.name.toList = true := by
  cases kind <;> decide

/-- The rules of a record are those of the kinds for which there is one. -/
theorem mem_rules_iff {rules : List TokenRule} {rule : TokenRule} (h : r.tokenRules = .ok rules) :
    rule ∈ rules ↔ r.IsRule rule.kind.name rule := by
  rw [tokenRules_eq_mapM] at h
  rw [mem_iff_of_mapM_eq_ok h]
  constructor
  · rintro ⟨⟨name, pattern⟩, member, comes⟩
    have isRule := (ruleFor_eq_ok_iff (mem_named_iff.1 member).2).1 comes
    rwa [isRule.kind]
  · intro isRule
    have member := mem_named_iff.2 ⟨isCapitalName_name rule.kind, isRule.pattern⟩
    exact ⟨_, member, (ruleFor_eq_ok_iff isRule.pattern).2 isRule⟩

/-- Which records give settings of tokenization. -/
theorem exists_lexingSettings_iff (stage : r.stage = .tokenizer)
    (present : r.hasSection tokenPatterns = true) :
    (∃ settings, r.lexingSettings = .ok settings) ↔
      (∀ name ∈ r.patternNames, (∃ kind : TokenKind, kind.name = name) ∧
        ∃ n, r.HasInt tokenPatterns (name ++ "_PRIORITY") .int32 n) ∧
      ∀ key ∈ lexingFlags, r.FlagIsValid dfaConfiguration key := by
  simp only [← governs_iff, ← exists_tokenRules_eq_ok_iff, tokenRules_eq_ok_iff,
    lexingSettings_eq_ok_iff stage present]
  constructor
  · rintro ⟨settings, isRule, flags, -, -⟩
    exact ⟨⟨settings.rules, isRule⟩, flags⟩
  · rintro ⟨⟨rules, isRule⟩, flags⟩
    exact ⟨⟨rules, _, _⟩, isRule, flags, rfl, rfl⟩

/-- A priority that is not found as an integer within its bounds is an invalid value. -/
theorem lexingSettings_eq_error_of_not_hasInt (stage : r.stage = .tokenizer)
    (present : r.hasSection tokenPatterns = true) {before after : List String} {text : String}
    (names : r.patternNames = before ++ kind.name :: after)
    (fine : ∀ name ∈ before, r.Governs name)
    (found : r.get? tokenPatterns (kind.name ++ "_PRIORITY") = some text)
    (outside : ∀ n, ¬ r.HasInt tokenPatterns (kind.name ++ "_PRIORITY") .int32 n) :
    r.lexingSettings =
      .error (.invalidValue r.stage tokenPatterns (kind.name ++ "_PRIORITY") text .integer) := by
  have unread : Bounds.int32.read? (trim text) = none :=
    read?_eq_none_of_not_hasInt (by decide) (by decide) (by decide) found outside
  refine (lexingSettings_eq_error_iff stage present).2 (.inl ?_)
  exact ⟨before, kind.name, after, names, fun name member e fault => fault.not_governs (fine name member),
    .priority rfl found unread⟩

/-- A key without the ending is passed over, whatever its value is. -/
theorem named_add_of_stem_none {ending value : String} (stem : stemOf? ending key = none) :
    (r.add heading key value).named heading ending = r.named heading ending := by
  have passed (pairs : List (String × String)) :
      ((setValue key value pairs).filterMap fun pair => (stemOf? ending pair.1).map fun name => (name, pair.2)) =
        pairs.filterMap fun pair => (stemOf? ending pair.1).map fun name => (name, pair.2) := by
    induction pairs with
    | nil => simp [setValue, stem]
    | cons pair pairs ih =>
      obtain ⟨k, v⟩ := pair
      by_cases same : k = key
      · simp [setValue, same, stem]
      · rw [setValue, if_neg same, List.filterMap_cons, List.filterMap_cons, ih]
  rw [named, sectionOf_add, if_pos rfl, passed]
  rfl

/-- The priority of a kind without a pattern is not read. -/
theorem lexingSettings_add_priority (stage : r.stage = .tokenizer)
    (present : r.hasSection tokenPatterns = true)
    (absent : r.get? tokenPatterns (kind.name ++ "_PATTERN") = none) (text : String) :
    (r.add tokenPatterns (kind.name ++ "_PRIORITY") text).lexingSettings = r.lexingSettings := by
  have stem : stemOf? "_PATTERN" (kind.name ++ "_PRIORITY") = none := by cases kind <;> decide +kernel
  refine LexesLike.lexingSettings_eq ⟨stage, ?_, ?_, fun name member ending known => ?_, fun key _ => ?_⟩ stage
    present
  · rw [hasSection_add, present, Bool.true_or]
  · rw [patternNames, names, named_add_of_stem_none stem]
    rfl
  · rw [get?_add, if_neg]
    rintro ⟨-, same⟩
    obtain ⟨capitals, pattern, found⟩ := mem_names_iff.1 member
    rcases List.mem_pair.1 known with rfl | rfl
    · cases stem.symm.trans (stemOf?_eq_some_iff.2 ⟨same, capitals⟩)
    · -- the name would be that of the kind, which has no pattern
      obtain rfl := (String.append_left_inj _).1 same
      cases absent.symm.trans found
  · rw [get?_add, if_neg]
    rintro ⟨other, -⟩
    exact absurd other (by decide)

/-! ### Levels -/

theorem statesLevels_iff : r.StatesLevels ↔ ∀ name, isCapitalName name.toList = true →
    ∀ text, r.get? precedenceTable (name ++ "_PRECEDENCE") = some text →
      (∃ symbol, (name, symbol) ∈ operators) ∧
        ∃ n, r.HasInt precedenceTable (name ++ "_PRECEDENCE") levelBounds n := by
  simp only [hasInt_levelBounds_iff]
  unfold StatesLevels
  refine forall_congr' fun name => forall_congr' fun _ => forall_congr' fun text =>
    forall_congr' fun found => and_congr_right fun _ => exists_congr fun n => ⟨?_, ?_⟩
  · intro read
    exact ⟨text, found, read⟩
  · rintro ⟨text', found', read⟩
    rw [found] at found'
    exact Option.some.inj found' ▸ read

theorem statesLevel_iff (operator : (name, symbol) ∈ operators) : r.StatesLevel symbol level ↔
    r.HasInt precedenceTable (name ++ "_PRECEDENCE") levelBounds level := by
  rw [hasInt_levelBounds_iff]
  constructor
  · rintro ⟨name', text, operator', found, read⟩
    -- no other name is that of this operator
    obtain rfl := biUnique_operators.1 operator operator'
    exact ⟨text, found, read⟩
  · rintro ⟨text, found, read⟩
    exact ⟨name, text, operator, found, read⟩

/-- A level that is not found as an integer within its bounds is an invalid value. -/
theorem parserSettings_eq_error_of_not_hasInt (stage : r.stage = .parser)
    (present : r.hasSection precedenceTable = true) {before after : List String} {text : String}
    (names : r.names precedenceTable "_PRECEDENCE" = before ++ name :: after)
    (fine : ∀ name' ∈ before, (∃ symbol, (name', symbol) ∈ operators) ∧
      ∃ n, r.HasInt precedenceTable (name' ++ "_PRECEDENCE") levelBounds n)
    (operator : (name, symbol) ∈ operators)
    (found : r.get? precedenceTable (name ++ "_PRECEDENCE") = some text)
    (outside : ∀ n, ¬ r.HasInt precedenceTable (name ++ "_PRECEDENCE") levelBounds n) :
    r.parserSettings =
      .error (.invalidValue r.stage precedenceTable (name ++ "_PRECEDENCE") text .level) := by
  have unread : levelBounds.read? (trim text) = none :=
    read?_eq_none_of_not_hasInt (by decide) (by decide) (by decide) found outside
  have table : r.levels = .error _ := levels_eq_error_iff.2
    ⟨before, name, after, names, fun name' member e fault => ?_, .level operator found unread⟩
  · unfold parserSettings expectStage requireSection
    rw [if_pos stage, if_pos present, table]
    rfl
  · obtain ⟨⟨symbol', operator'⟩, n, within⟩ := fine name' member
    obtain ⟨text', found', read⟩ := hasInt_levelBounds_iff.1 within
    rcases fault with unknown | ⟨-, found'', unread'⟩
    · exact unknown symbol' operator'
    · cases found'.symm.trans found''
      cases read.symm.trans unread'

end StageRecord

open StageRecord in
/-- **The readers of integers agree.**  Integers, priorities and levels are read as numbers of 64 bits, of 32
bits and of a byte, in which no digit may lead out of these sizes; zero and 255 are no levels.
A record gives settings of tokenization exactly if each name with a pattern is that of a kind and has an integer
of 32 bits as its priority, and the flags are truth values; the priority of a kind is then the integer that is
found under its key, and no other.  If there is none within 32 bits, although the key is there, then the
priority is an invalid value, unless a name before it is wrong already.  The priority of a kind without a
pattern is not read.
A record gives settings of parsing exactly if each key for a level is that of an operator with an integer from 1
to 254, and the policy is known; the level of an operator is then the integer that is found under its key, and
no other.  If there is none within these bounds, although the key is there, then the level is an invalid value,
unless a key before it is wrong already. -/
theorem integers_agree (r : StageRecord) :
    (∀ text, Bounds.int64.read? text = Bounds.int64.readByDigits? text.toList ∧
      Bounds.int32.read? text = Bounds.int32.readByDigits? text.toList ∧
      levelBounds.read? text = (Bounds.byte.readByDigits? text.toList).filter fun n => levelBounds.Has n) ∧
    (r.stage = .tokenizer → r.hasSection tokenPatterns = true →
      ((∃ settings, r.lexingSettings = .ok settings) ↔
        (∀ name ∈ r.patternNames, (∃ kind : TokenKind, kind.name = name) ∧
          ∃ n, r.HasInt tokenPatterns (name ++ "_PRIORITY") .int32 n) ∧
        ∀ key ∈ lexingFlags, r.FlagIsValid dfaConfiguration key) ∧
      (∀ settings, r.lexingSettings = .ok settings → ∀ (kind : TokenKind) pattern n,
        (⟨pattern, kind, n⟩ ∈ settings.rules ↔
          r.get? tokenPatterns (kind.name ++ "_PATTERN") = some pattern ∧
            r.HasInt tokenPatterns (kind.name ++ "_PRIORITY") .int32 n)) ∧
      (∀ before (kind : TokenKind) after text, r.patternNames = before ++ kind.name :: after →
        (∀ name ∈ before, (∃ kind : TokenKind, kind.name = name) ∧
          ∃ n, r.HasInt tokenPatterns (name ++ "_PRIORITY") .int32 n) →
        r.get? tokenPatterns (kind.name ++ "_PRIORITY") = some text →
        (∀ n, ¬ r.HasInt tokenPatterns (kind.name ++ "_PRIORITY") .int32 n) →
        r.lexingSettings =
          .error (.invalidValue r.stage tokenPatterns (kind.name ++ "_PRIORITY") text .integer)) ∧
      ∀ (kind : TokenKind) text, r.get? tokenPatterns (kind.name ++ "_PATTERN") = none →
        (r.add tokenPatterns (kind.name ++ "_PRIORITY") text).lexingSettings = r.lexingSettings) ∧
    (r.stage = .parser → r.hasSection precedenceTable = true →
      ((∃ p, r.parserSettings = .ok p) ↔
        (∀ name, isCapitalName name.toList = true →
          ∀ text, r.get? precedenceTable (name ++ "_PRECEDENCE") = some text →
            (∃ symbol, (name, symbol) ∈ operators) ∧
              ∃ n, r.HasInt precedenceTable (name ++ "_PRECEDENCE") levelBounds n) ∧
        r.PolicyIsValid) ∧
      (∀ p, r.parserSettings = .ok p → ∀ name symbol, (name, symbol) ∈ operators → ∀ level : Nat,
        (p.levels.level? symbol = some level ↔
          r.HasInt precedenceTable (name ++ "_PRECEDENCE") levelBounds level)) ∧
      ∀ before name after symbol text, r.names precedenceTable "_PRECEDENCE" = before ++ name :: after →
        (∀ name' ∈ before, (∃ symbol, (name', symbol) ∈ operators) ∧
          ∃ n, r.HasInt precedenceTable (name' ++ "_PRECEDENCE") levelBounds n) →
        (name, symbol) ∈ operators → r.get? precedenceTable (name ++ "_PRECEDENCE") = some text →
        (∀ n, ¬ r.HasInt precedenceTable (name ++ "_PRECEDENCE") levelBounds n) →
        r.parserSettings =
          .error (.invalidValue r.stage precedenceTable (name ++ "_PRECEDENCE") text .level)) := by
  refine ⟨fun text => ⟨?_, ?_, ?_⟩, fun stage present => ⟨?_, ?_, ?_, ?_⟩,
    fun stage present => ⟨?_, ?_, ?_⟩⟩
  · exact (Bounds.readByDigits?_eq (by decide) _).symm
  · exact (Bounds.readByDigits?_eq (by decide) _).symm
  · rw [Bounds.readByDigits?_eq (by decide)]
    exact Bounds.readChars?_eq_filter (by decide) (by decide) (by decide) _
  · exact exists_lexingSettings_iff stage present
  · intro settings h kind pattern n
    have rules := tokenRules_eq_ok_iff.2 ((lexingSettings_eq_ok_iff stage present).1 h).1
    exact (mem_rules_iff rules).trans isRule_iff
  · intro before kind after text names fine found outside
    exact lexingSettings_eq_error_of_not_hasInt stage present names
      (fun name member => governs_iff.2 (fine name member)) found outside
  · intro kind text absent
    exact lexingSettings_add_priority stage present absent text
  · rw [exists_parserSettings_eq_ok_iff stage present, statesLevels_iff]
  · intro p h name symbol operator level
    have levels := ((parserSettings_eq_ok_iff stage present).1 h).2.1
    exact (levels symbol level).trans (statesLevel_iff operator)
  · intro before name after symbol text names fine operator found outside
    exact parserSettings_eq_error_of_not_hasInt stage present names fine operator found outside

/-- The least integer of 32 bits and one beyond the greatest; the greatest level, and a zero with a sign. -/
theorem integers_agree_extreme :
    let r := ((StageRecord.new .tokenizer "TOKENIZER" "LEXICAL_ANALYSIS").add tokenPatterns "NUMBER_PATTERN"
      "[0-9]+").add tokenPatterns "NUMBER_PRIORITY" " -0002147483648 "
    let r' := (r.add tokenPatterns "OPERATOR_PRIORITY" "+2147483648").add tokenPatterns "OPERATOR_PATTERN" "-"
    let q := (StageRecord.new .parser "PARSER" "SYNTAX").add precedenceTable "PLUS_PRECEDENCE" "+00254"
    let q' := q.add precedenceTable "MINUS_PRECEDENCE" "-0"
    (r.stage = .tokenizer ∧ r.hasSection tokenPatterns = true ∧
      r.lexingSettings = .ok ⟨[⟨"[0-9]+", .number, -2147483648⟩], false, true⟩ ∧
      r.HasInt tokenPatterns "NUMBER_PRIORITY" .int32 (-2147483648)) ∧
    (r'.stage = .tokenizer ∧ r'.hasSection tokenPatterns = true ∧
      r'.getInt tokenPatterns "OPERATOR_PRIORITY" = .ok (some 2147483648) ∧
      r'.lexingSettings = .error (.invalidValue .tokenizer tokenPatterns "OPERATOR_PRIORITY" "+2147483648"
        .integer)) ∧
    (q.stage = .parser ∧ q.hasSection precedenceTable = true ∧
      q.parserSettings = .ok ⟨PrecedenceTable.empty.insert "+" 254, .reject⟩ ∧
      q.HasInt precedenceTable "PLUS_PRECEDENCE" StageRecord.levelBounds 254) ∧
    q'.stage = .parser ∧ q'.hasSection precedenceTable = true ∧
      q'.getInt precedenceTable "MINUS_PRECEDENCE" = .ok (some 0) ∧
      q'.parserSettings = .error (.invalidValue .parser precedenceTable "MINUS_PRECEDENCE" "-0" .level) := by
  intro r r' q q'
  refine ⟨?_, ?_, ?_, ?_⟩
  · have present : r.hasSection tokenPatterns = true := by decide +kernel
    have given : r.lexingSettings = .ok ⟨[⟨"[0-9]+", .number, -2147483648⟩], false, true⟩ :=
      toOption_eq_some_iff.1 (by decide +kernel)
    have law := (integers_agree r).2.1 rfl present
    exact ⟨rfl, present, given, ((law.2.1 _ given .number _ _).1 (List.mem_singleton_self _)).2⟩
  · have present : r'.hasSection tokenPatterns = true := by decide +kernel
    have beyond : r'.getInt tokenPatterns "OPERATOR_PRIORITY" = .ok (some 2147483648) := by decide +kernel
    have law := (integers_agree r').2.1 rfl present
    refine ⟨rfl, present, beyond, law.2.2.1 ["NUMBER"] .operator [] _ (by decide +kernel) ?_
      (by decide +kernel) ?_⟩
    · intro name member
      obtain rfl := List.mem_singleton.1 member
      exact ⟨⟨.number, rfl⟩, -2147483648, by decide +kernel, by decide, by decide⟩
    · rintro n ⟨found, -, within⟩
      obtain rfl : (2147483648 : Int) = n := by simpa using beyond.symm.trans found
      exact absurd within (by decide)
  · have present : q.hasSection precedenceTable = true := by decide +kernel
    have given : q.parserSettings = .ok ⟨PrecedenceTable.empty.insert "+" 254, .reject⟩ :=
      toOption_eq_some_iff.1 (by decide +kernel)
    have law := (integers_agree q).2.2 rfl present
    exact ⟨rfl, present, given, (law.2.1 _ given "PLUS" "+" (by decide) 254).1 (by decide +kernel)⟩
  · have present : q'.hasSection precedenceTable = true := by decide +kernel
    have zero : q'.getInt precedenceTable "MINUS_PRECEDENCE" = .ok (some 0) := by decide +kernel
    have law := (integers_agree q').2.2 rfl present
    refine ⟨rfl, present, zero, law.2.2 ["PLUS"] "MINUS" [] "-" _ (by decide +kernel) ?_ (by decide)
      (by decide +kernel) ?_⟩
    · intro name member
      obtain rfl := List.mem_singleton.1 member
      exact ⟨⟨"+", by decide⟩, 254, by decide +kernel, by decide, by decide⟩
    · rintro n ⟨found, within, -⟩
      obtain rfl : (0 : Int) = n := by simpa using zero.symm.trans found
      exact absurd within (by decide)

end GovernedExpr
