import GovernedExpr.Proofs.Governance.Keys

/-!
# The levels that a record states

A record states the level of an operator by one key of the section of levels: the name of the operator with
an ending.  Each operator has one name, so no two keys set the level of the same operator, and the order in
which the keys stand does not matter.

* `PrecedenceTable.ext_level?` says that a table is known by its levels;
* `operators` lists the operators, `StageRecord.StatesLevel` says which level a record states for a symbol,
  and `StageRecord.StatesLevels` that no key for a level is wrong;
* `StageRecord.levels_eq_ok_iff` says which table a record gives, and `StageRecord.levels_eq_error_iff` what
  is wrong if it gives none;
* `parserSettings_exact` says which settings of parsing a record gives, and that the order of keys does not
  matter for them.
-/

namespace GovernedExpr

open Text

/-! ### Tables by their levels -/

namespace PrecedenceTable

variable {t t' : PrecedenceTable} {symbol : String} {level : Nat}

theorem nodup_symbols (t : PrecedenceTable) : (t.entries.map Prod.fst).Nodup := by
  refine List.pairwise_map.2 (t.ascending.imp ?_)
  intro a b before same
  exact String.lt_irrefl _ (same ▸ before)

/-- A table is known by its levels. -/
theorem ext_level? (same : ∀ symbol, t.level? symbol = t'.level? symbol) : t = t' := by
  have member (e : String × Nat) : e ∈ t.entries ↔ e ∈ t'.entries := by
    obtain ⟨symbol, level⟩ := e
    have levels : t.entries.lookup symbol = t'.entries.lookup symbol := same symbol
    rw [StageRecord.mem_iff_lookup_eq_some t.nodup_symbols, levels,
      StageRecord.mem_iff_lookup_eq_some t'.nodup_symbols]
  have perm := (List.perm_ext_iff_of_nodup t.nodup_symbols.of_map t'.nodup_symbols.of_map).2 member
  have entries := perm.eq_of_pairwise
    (fun a b _ _ before after => absurd (String.lt_trans before after) (String.lt_irrefl _)) t.ascending
    t'.ascending
  cases t
  cases t'
  congr

/-- The levels of a table into which levels of different symbols were put. -/
theorem level?_foldl_insert {levels : List (String × Nat)} (nodup : (levels.map Prod.fst).Nodup)
    (t : PrecedenceTable) (symbol : String) (level : Nat) :
    (levels.foldl (fun t e => t.insert e.1 e.2) t).level? symbol = some level ↔
      (symbol, level) ∈ levels ∨ symbol ∉ levels.map Prod.fst ∧ t.level? symbol = some level := by
  induction levels generalizing t with
  | nil => simp
  | cons e levels ih =>
    obtain ⟨s, l⟩ := e
    rw [List.map_cons, List.nodup_cons] at nodup
    rw [List.foldl_cons, ih nodup.2, level?_insert]
    by_cases same : symbol = s
    · subst same
      have other : (symbol, level) ∉ levels := fun member =>
        nodup.1 (List.mem_map.2 ⟨_, member, rfl⟩)
      simp [other, nodup.1, eq_comm]
    · simp [same]

end PrecedenceTable

/-! ### The level of a name -/

/-- The operators that may have levels: their names and their symbols. -/
def operators : List (String × String) :=
  [("PLUS", "+"), ("MINUS", "-"), ("MULTIPLY", "*"), ("DIVIDE", "/")]

/-- Names and symbols of operators determine each other. -/
theorem biUnique_operators : Relator.BiUnique fun name symbol => (name, symbol) ∈ operators := by
  unfold operators
  constructor
  · intro name name' symbol h h'
    simp at h h'
    grind
  · intro name symbol symbol' h h'
    simp at h h'
    grind

theorem isCapitalName_of_mem_operators {name symbol : String} (h : (name, symbol) ∈ operators) :
    isCapitalName name.toList = true := by
  unfold operators at h
  simp only [List.mem_cons, Prod.mk.injEq, List.not_mem_nil, or_false] at h
  rcases h with ⟨rfl, -⟩ | ⟨rfl, -⟩ | ⟨rfl, -⟩ | ⟨rfl, -⟩ <;> decide

namespace StageRecord

variable {r r' : StageRecord} {name symbol text : String} {level : Nat} {table : PrecedenceTable}
  {p : ParserSettings} {e : GovernanceError}

theorem operatorSymbol?_eq_some_iff :
    operatorSymbol? name = some symbol ↔ (name, symbol) ∈ operators := by
  unfold operatorSymbol? operators
  grind

/-- Each key for the level of a name in capitals is that of an operator, and its latest value is a level. -/
def StatesLevels (r : StageRecord) : Prop :=
  ∀ name, isCapitalName name.toList = true →
    ∀ text, r.get? precedenceTable (name ++ "_PRECEDENCE") = some text →
      (∃ symbol, (name, symbol) ∈ operators) ∧ ∃ level, levelBounds.read? (trim text) = some level

/-- The latest value of the key for the level of a symbol is the level. -/
def StatesLevel (r : StageRecord) (symbol : String) (level : Nat) : Prop :=
  ∃ name text, (name, symbol) ∈ operators ∧
    r.get? precedenceTable (name ++ "_PRECEDENCE") = some text ∧
    levelBounds.read? (trim text) = some (level : Int)

/-- The symbol and the level of a name with a value. -/
def levelFor (r : StageRecord) : String × String → Except GovernanceError (String × Nat)
  | (name, value) =>
    match operatorSymbol? name with
    | none => .error (.unknownOperator name)
    | some symbol =>
      match levelBounds.read? (trim value) with
      | some level => .ok (symbol, level.toNat)
      | none => .error (.invalidValue r.stage precedenceTable (name ++ "_PRECEDENCE") value .level)

theorem levelFor_eq_ok_iff : r.levelFor (name, text) = .ok (symbol, level) ↔
    (name, symbol) ∈ operators ∧ levelBounds.read? (trim text) = some (level : Int) := by
  unfold levelFor
  dsimp only
  rw [← operatorSymbol?_eq_some_iff]
  cases operatorSymbol? name with
  | none => simp
  | some s =>
    dsimp only
    cases read : levelBounds.read? (trim text) with
    | none => simp
    | some n =>
      have low : 1 ≤ n := (Bounds.bounded_of_read? read).1
      have same : n.toNat = level ↔ n = (level : Int) := by omega
      simp only [Except.ok.injEq, Prod.mk.injEq, Option.some.injEq, same]

theorem exists_levelFor_eq_ok_iff : (∃ e, r.levelFor (name, text) = .ok e) ↔
    (∃ symbol, (name, symbol) ∈ operators) ∧ ∃ level, levelBounds.read? (trim text) = some level := by
  constructor
  · rintro ⟨⟨symbol, level⟩, h⟩
    obtain ⟨operator, read⟩ := levelFor_eq_ok_iff.1 h
    exact ⟨⟨symbol, operator⟩, level, read⟩
  · rintro ⟨⟨symbol, operator⟩, level, read⟩
    have low : 1 ≤ level := (Bounds.bounded_of_read? read).1
    refine ⟨(symbol, level.toNat), levelFor_eq_ok_iff.2 ⟨operator, ?_⟩⟩
    rw [read, Int.toNat_of_nonneg (by omega)]

/-! ### The table of all names -/

theorem setLevel_of_stem_none {key value : String} (stem : stemOf? "_PRECEDENCE" key = none) :
    r.setLevel table key value = .ok table := by
  unfold setLevel
  rw [stem]

theorem setLevel_of_stem {key value : String} (stem : stemOf? "_PRECEDENCE" key = some name) :
    r.setLevel table key value = (r.levelFor (name, value)).map fun e => table.insert e.1 e.2 := by
  obtain ⟨rfl, -⟩ := stemOf?_eq_some_iff.1 stem
  unfold setLevel levelFor
  rw [stem]
  dsimp only
  cases operatorSymbol? name with
  | none => rfl
  | some symbol =>
    dsimp only
    cases levelBounds.read? (trim value) <;> rfl

/-- The loop over the keys of the section reads the levels of names and puts them into the table. -/
theorem levels_eq_map (r : StageRecord) :
    r.levels = ((r.named precedenceTable "_PRECEDENCE").mapM r.levelFor).map fun levels =>
      levels.foldl (fun t e => t.insert e.1 e.2) .empty := by
  unfold levels named
  refine foldlM_filterMap (fun table pair passed => ?_) (fun table pair named stays => ?_) _
  · exact setLevel_of_stem_none (Option.map_eq_none_iff.1 passed)
  · obtain ⟨name, stem, rfl⟩ := Option.map_eq_some_iff.1 stays
    exact setLevel_of_stem stem

/-- What is wrong with a name that has a key for a level, and sets none. -/
inductive LevelFault (r : StageRecord) (name : String) : GovernanceError → Prop
  /-- It is not the name of an operator. -/
  | operator (unknown : ∀ symbol, (name, symbol) ∉ operators) : LevelFault r name (.unknownOperator name)
  /-- The latest value of its key is no level. -/
  | level {symbol text : String} (operator : (name, symbol) ∈ operators)
      (found : r.get? precedenceTable (name ++ "_PRECEDENCE") = some text)
      (unread : levelBounds.read? (trim text) = none) :
      LevelFault r name (.invalidValue r.stage precedenceTable (name ++ "_PRECEDENCE") text .level)

theorem levelFor_eq_error_iff (found : r.get? precedenceTable (name ++ "_PRECEDENCE") = some text) :
    r.levelFor (name, text) = .error e ↔ r.LevelFault name e := by
  unfold levelFor
  dsimp only
  cases known : operatorSymbol? name with
  | none =>
    have unknown : ∀ symbol, (name, symbol) ∉ operators := fun symbol member => by
      rw [operatorSymbol?_eq_some_iff.2 member] at known
      cases known
    constructor
    · rintro ⟨⟩
      exact .operator unknown
    · rintro (_ | member)
      · rfl
      · exact absurd member (unknown _)
  | some symbol =>
    have member := operatorSymbol?_eq_some_iff.1 known
    dsimp only
    cases read : levelBounds.read? (trim text) with
    | none =>
      constructor
      · rintro ⟨⟩
        exact .level member found read
      · rintro (unknown | ⟨-, found', -⟩)
        · exact absurd member (unknown symbol)
        · cases found.symm.trans found'
          rfl
    | some level =>
      refine iff_of_false nofun ?_
      rintro (unknown | ⟨-, found', unread⟩)
      · exact unknown symbol member
      · cases found.symm.trans found'
        rw [read] at unread
        cases unread

/-- A record gives no table if something is wrong with a name; the first such name decides. -/
theorem levels_eq_error_iff :
    r.levels = .error e ↔ FirstFault r.LevelFault (r.names precedenceTable "_PRECEDENCE") e := by
  have loop : r.levels = .error e ↔
      (r.named precedenceTable "_PRECEDENCE").mapM r.levelFor = .error e := by
    rw [levels_eq_map]
    cases (r.named precedenceTable "_PRECEDENCE").mapM r.levelFor <;> simp [Except.map]
  rw [loop, mapM_eq_error_iff, names, firstFault_map]
  refine firstFault_congr fun pair member e => ?_
  exact levelFor_eq_error_iff (mem_named_iff.1 member).2

theorem exists_levels_eq_ok_iff : (∃ table, r.levels = .ok table) ↔ r.StatesLevels := by
  have loop : (∃ table, r.levels = .ok table) ↔
      ∃ found, (r.named precedenceTable "_PRECEDENCE").mapM r.levelFor = .ok found := by
    rw [levels_eq_map]
    cases (r.named precedenceTable "_PRECEDENCE").mapM r.levelFor <;> simp [Except.map]
  rw [loop, exists_mapM_eq_ok_iff]
  constructor
  · intro all name capitals text found
    exact exists_levelFor_eq_ok_iff.1 (all (name, text) (mem_named_iff.2 ⟨capitals, found⟩))
  · rintro all ⟨name, text⟩ member
    obtain ⟨capitals, found⟩ := mem_named_iff.1 member
    exact exists_levelFor_eq_ok_iff.2 (all name capitals text found)

/-- A table that a record gives has the levels that the record states. -/
theorem level?_of_levels_eq_ok (h : r.levels = .ok table) (symbol : String) (level : Nat) :
    table.level? symbol = some level ↔ r.StatesLevel symbol level := by
  rw [levels_eq_map] at h
  cases loop : (r.named precedenceTable "_PRECEDENCE").mapM r.levelFor with
  | error e =>
    rw [loop] at h
    cases h
  | ok found =>
    rw [loop] at h
    cases h
    have nodup : (found.map Prod.fst).Nodup := by
      have operators : List.Forall₂ (fun name symbol => (name, symbol) ∈ operators)
          (r.names precedenceTable "_PRECEDENCE") (found.map Prod.fst) := by
        rw [names, List.forall₂_map_left_iff, List.forall₂_map_right_iff]
        exact (mapM_eq_ok_iff.1 loop).imp fun _ _ read => (levelFor_eq_ok_iff.1 read).1
      exact (List.rel_nodup biUnique_operators operators).1 nodup_names
    rw [PrecedenceTable.level?_foldl_insert nodup, PrecedenceTable.level?_empty]
    simp only [reduceCtorEq, and_false, or_false, mem_iff_of_mapM_eq_ok loop, Prod.exists,
      levelFor_eq_ok_iff, mem_named_iff]
    constructor
    · rintro ⟨name, text, ⟨-, found⟩, operator, read⟩
      exact ⟨name, text, operator, found, read⟩
    · rintro ⟨name, text, operator, found, read⟩
      exact ⟨name, text, ⟨isCapitalName_of_mem_operators operator, found⟩, operator, read⟩

/-- A record gives the table of the levels that it states. -/
theorem levels_eq_ok_iff : r.levels = .ok table ↔
    r.StatesLevels ∧ ∀ symbol level, table.level? symbol = some level ↔ r.StatesLevel symbol level := by
  constructor
  · intro h
    exact ⟨exists_levels_eq_ok_iff.1 ⟨table, h⟩, level?_of_levels_eq_ok h⟩
  · rintro ⟨states, levels⟩
    obtain ⟨table', h⟩ := exists_levels_eq_ok_iff.2 states
    have same : table' = table := PrecedenceTable.ext_level? fun symbol => Option.ext fun level =>
      (level?_of_levels_eq_ok h symbol level).trans (levels symbol level).symm
    rw [h, same]

/-! ### The settings of parsing -/

/-- The policy for a missing operand is absent or known. -/
def PolicyIsValid (r : StageRecord) : Prop :=
  ∀ text, r.get? parserOptions "missing_operand" = some text → ∃ m, MissingOperand.ofText? text = some m

/-- The policy for a missing operand that a record states. -/
def policy (r : StageRecord) : MissingOperand :=
  ((r.get? parserOptions "missing_operand").bind MissingOperand.ofText?).getD .reject

theorem getAs_policy_eq_ok_iff {found : Option MissingOperand} :
    r.getAs parserOptions "missing_operand" MissingOperand.ofText? .policy = .ok found ↔
      r.PolicyIsValid ∧
        (r.get? parserOptions "missing_operand").bind MissingOperand.ofText? = found := by
  unfold getAs PolicyIsValid
  cases r.get? parserOptions "missing_operand" with
  | none => simp
  | some text => cases h : MissingOperand.ofText? text <;> simp [h]

theorem parserSettings_eq_ok_iff (stage : r.stage = .parser)
    (present : r.hasSection precedenceTable = true) :
    r.parserSettings = .ok p ↔
      (r.StatesLevels ∧ r.PolicyIsValid) ∧
      (∀ symbol level, p.levels.level? symbol = some level ↔ r.StatesLevel symbol level) ∧
      p.missingOperand = r.policy := by
  obtain ⟨table, missingOperand⟩ := p
  unfold parserSettings expectStage requireSection
  rw [if_pos stage, if_pos present]
  simp only [bind_eq_ok_iff, Except.ok.injEq, levels_eq_ok_iff, getAs_policy_eq_ok_iff, pure,
    Except.pure, ParserSettings.mk.injEq]
  constructor
  · rintro ⟨-, -, -, -, table, ⟨states, levels⟩, _, ⟨valid, rfl⟩, rfl, rfl⟩
    exact ⟨⟨states, valid⟩, levels, rfl⟩
  · rintro ⟨⟨states, valid⟩, levels, rfl⟩
    exact ⟨(), trivial, (), trivial, table, ⟨states, levels⟩, _, ⟨valid, rfl⟩, rfl, rfl⟩

theorem exists_parserSettings_eq_ok_iff (stage : r.stage = .parser)
    (present : r.hasSection precedenceTable = true) :
    (∃ p, r.parserSettings = .ok p) ↔ r.StatesLevels ∧ r.PolicyIsValid := by
  constructor
  · rintro ⟨p, h⟩
    exact ((parserSettings_eq_ok_iff stage present).1 h).1
  · rintro ⟨states, valid⟩
    obtain ⟨table, h⟩ := exists_levels_eq_ok_iff.2 states
    obtain ⟨-, levels⟩ := levels_eq_ok_iff.1 h
    exact ⟨⟨table, r.policy⟩,
      (parserSettings_eq_ok_iff stage present).2 ⟨⟨states, valid⟩, levels, rfl⟩⟩

/-- The order of the keys of a section does not matter for the values that are found. -/
theorem get?_eq_of_perm {heading : String}
    (perm : (r'.sectionOf heading).Perm (r.sectionOf heading)) (key : String) :
    r'.get? heading key = r.get? heading key :=
  Option.ext fun value => by rw [← mem_sectionOf_iff, ← mem_sectionOf_iff, perm.mem_iff]

theorem hasSection_eq_of_perm {heading : String}
    (perm : (r'.sectionOf heading).Perm (r.sectionOf heading)) :
    r'.hasSection heading = r.hasSection heading := by
  rw [Bool.eq_iff_iff, hasSection_iff, hasSection_iff, ne_eq, ne_eq, ← List.length_eq_zero_iff,
    ← List.length_eq_zero_iff, perm.length_eq]

end StageRecord

open StageRecord in
/-- **Which settings of parsing a record gives.**  A record gives settings if and only if each key
`X_PRECEDENCE` for a name `X` in capitals is that of an operator and its latest value is an integer from 1
to 254, and the policy is absent or known.  Then the table has the symbols of these operators with these
levels and no others, and no two keys set the level of the same symbol.  So the order in which the keys
stand matters neither for whether there are settings nor for what they are. -/
theorem parserSettings_exact {r : StageRecord} (stage : r.stage = .parser)
    (present : r.hasSection precedenceTable = true) :
    ((∃ p, r.parserSettings = .ok p) ↔
      (∀ name, isCapitalName name.toList = true →
        ∀ text, r.get? precedenceTable (name ++ "_PRECEDENCE") = some text →
          (∃ symbol, (name, symbol) ∈ operators) ∧
            ∃ level, levelBounds.read? (trim text) = some level) ∧
      ∀ text, r.get? parserOptions "missing_operand" = some text →
        ∃ policy, MissingOperand.ofText? text = some policy) ∧
    (∀ p, r.parserSettings = .ok p →
      (∀ symbol level, p.levels.level? symbol = some level ↔
        ∃ name text, (name, symbol) ∈ operators ∧
          r.get? precedenceTable (name ++ "_PRECEDENCE") = some text ∧
          levelBounds.read? (trim text) = some (level : Int)) ∧
      p.missingOperand = r.policy) ∧
    (∀ name name' symbol, (name, symbol) ∈ operators → (name', symbol) ∈ operators → name = name') ∧
    ∀ r' : StageRecord, r'.stage = .parser →
      (r'.sectionOf precedenceTable).Perm (r.sectionOf precedenceTable) →
      r'.get? parserOptions "missing_operand" = r.get? parserOptions "missing_operand" →
      ((∃ p, r'.parserSettings = .ok p) ↔ ∃ p, r.parserSettings = .ok p) ∧
        ∀ p, r'.parserSettings = .ok p ↔ r.parserSettings = .ok p := by
  refine ⟨exists_parserSettings_eq_ok_iff stage present, fun p h => ?_,
    fun name name' symbol h h' => biUnique_operators.1 h h', fun r' stage' perm option => ?_⟩
  · exact ((parserSettings_eq_ok_iff stage present).1 h).2
  · have same (p : ParserSettings) : r'.parserSettings = .ok p ↔ r.parserSettings = .ok p := by
      have present' : r'.hasSection precedenceTable = true := (hasSection_eq_of_perm perm).trans present
      rw [parserSettings_eq_ok_iff stage present, parserSettings_eq_ok_iff stage' present']
      simp only [StatesLevels, StatesLevel, PolicyIsValid, policy, get?_eq_of_perm perm, option]
    exact ⟨exists_congr same, same⟩

/-- Keys in another order, one of them written over, give the settings that they give in the built-in order;
an operator without a key has no level. -/
theorem parserSettings_exact_reordered :
    let empty := StageRecord.new .parser "PARSER" "SYNTAX"
    let r := ((empty.add precedenceTable "PLUS_PRECEDENCE" "10").add precedenceTable "plus_PRECEDENCE"
      "x").add precedenceTable "DIVIDE_PRECEDENCE" " +020"
    let r' := (((empty.add precedenceTable "DIVIDE_PRECEDENCE" "high").add precedenceTable
      "plus_PRECEDENCE" "x").add precedenceTable "DIVIDE_PRECEDENCE" " +020").add precedenceTable
      "PLUS_PRECEDENCE" "10"
    let p : ParserSettings := ⟨(PrecedenceTable.empty.insert "+" 10).insert "/" 20, .reject⟩
    r.stage = .parser ∧ r.hasSection precedenceTable = true ∧ r'.stage = .parser ∧
      (r'.sectionOf precedenceTable).Perm (r.sectionOf precedenceTable) ∧
      r'.get? parserOptions "missing_operand" = r.get? parserOptions "missing_operand" ∧
      r.parserSettings = .ok p ∧ r'.parserSettings = .ok p ∧
      ∀ symbol level, p.levels.level? symbol = some level ↔
        ∃ name text, (name, symbol) ∈ operators ∧
          r.get? precedenceTable (name ++ "_PRECEDENCE") = some text ∧
          StageRecord.levelBounds.read? (trim text) = some (level : Int) := by
  intro empty r r' p
  have present : r.hasSection precedenceTable = true := by decide +kernel
  have perm : (r'.sectionOf precedenceTable).Perm (r.sectionOf precedenceTable) := by decide +kernel
  have option : r'.get? parserOptions "missing_operand" = r.get? parserOptions "missing_operand" := by
    decide +kernel
  have accepted : r.parserSettings = .ok p := toOption_eq_some_iff.1 (by decide +kernel)
  have law := parserSettings_exact rfl present
  exact ⟨rfl, present, rfl, perm, option, accepted,
    ((law.2.2.2 r' rfl perm option).2 p).2 accepted, (law.2.1 p accepted).1⟩

end GovernedExpr
