import GovernedExpr.Proofs.Lexing.Unmatched
import GovernedExpr.Proofs.Pattern.Spans

/-!
# Rules that exclude each other

Priorities and the order of rules only matter for lexemes to which several rules apply.  No two of the
built-in rules apply to one lexeme, since the lexemes of each kind start with characters of their own,
be they of ASCII or not.

* `TokenRule.kind_classify_congr` says when rules in another order and with other priorities give a
  lexeme the same kind;
* `IsReadAs` says which pattern a text is read as, and `TokenRule.applies_iff_of_isReadAs` what this
  means for a rule;
* `BuiltinLexeme` are the lexemes of a kind under the built-in rules, and `applies_iff_builtinLexeme`
  says that the rule of that kind applies to no others;
* `BuiltinLexeme.unique` says that no lexeme is of two kinds, and `applies_builtin_exclusive` puts
  together what follows for classification and for the tokens of a text.
-/

namespace GovernedExpr

open Text Reading

/-! ### Sets of characters -/

namespace Text.CodeSet

/-- Whether no range of a set meets a range of another one. -/
def isDisjoint (s t : CodeSet) : Bool :=
  s.ranges.all fun r => t.ranges.all fun q => r.2 < q.1 || q.2 < r.1

theorem not_has_of_isDisjoint {s t : CodeSet} {c : Char} (h : s.isDisjoint t = true)
    (hs : s.has c = true) : ¬ t.has c = true := by
  intro ht
  obtain ⟨r, hr, le_c, c_le⟩ := contains_iff.1 hs
  obtain ⟨q, hq, le_c', c_le'⟩ := contains_iff.1 ht
  have apart := List.all_eq_true.1 (List.all_eq_true.1 h r hr) q hq
  simp only [Bool.or_eq_true, decide_eq_true_eq] at apart
  omega

/-- The letters of ASCII and the underscore. -/
def nameStarts : CodeSet :=
  .ofRanges [(0x41, 0x5A), (0x5F, 0x5F), (0x61, 0x7A)]

/-- The symbols of the built-in rule for operators. -/
def operatorSymbols : CodeSet :=
  .ofRanges [(0x21, 0x21), (0x26, 0x26), (0x2A, 0x2B), (0x2D, 0x2D), (0x2F, 0x2F), (0x3C, 0x3E),
    (0x7C, 0x7C)]

/-- The decimal point. -/
def point : CodeSet :=
  .single '.'.toNat

@[simp] theorem has_point {c : Char} : point.has c = true ↔ c = '.' := by
  rw [has, contains_iff, ← Char.toNat_inj]
  simp only [point, ranges_single, List.mem_singleton, exists_eq_left]
  omega

end Text.CodeSet

/-- The blanks that patterns know are those that texts are cut at. -/
theorem has_whiteSpace (c : Char) : Unicode.Property.whiteSpace.has c = isBlank c := by
  have ranges : Unicode.Property.whiteSpace.ranges = blankRanges := by decide
  rw [Bool.eq_iff_iff, CodeSet.has, CodeSet.contains_iff, ranges, isBlank, List.any_eq_true]
  simp only [Bool.and_eq_true, decide_eq_true_eq]

/-! ### Rules of which one applies at most -/

namespace TokenRule

variable {rules rules' : List TokenRule} {r : TokenRule} {lexeme : String}

/-- If the rules that apply agree on the kind, then that is the kind. -/
theorem kind_classify_of_applies (hr : r ∈ rules) (applies : r.applies lexeme = true)
    (agree : ∀ s ∈ rules, s.applies lexeme = true → s.kind = r.kind) :
    ((Classifier.ofRules rules).classify lexeme).kind = r.kind := by
  cases found : counting? rules lexeme with
  | none => exact absurd applies (Bool.eq_false_iff.1 (counting?_eq_none_iff.1 found r hr))
  | some s =>
    obtain ⟨n, classified⟩ := classify_of_counting? found
    obtain ⟨hs, applies⟩ := mem_of_counting? found
    rw [classified]
    exact agree s hs applies

/-- What a rule says of the kind of a lexeme, whatever its priority. -/
def essence (r : TokenRule) : String × TokenKind :=
  (r.pattern, r.kind)

theorem applies_congr {s : TokenRule} (same : s.essence = r.essence) (lexeme : String) :
    s.applies lexeme = r.applies lexeme := by
  rw [applies, applies, compile, compile, show s.pattern = r.pattern from congrArg Prod.fst same]

/-- **The order and the priorities of rules do not matter** for the kind of a lexeme, if the rules that
apply to it agree on its kind. -/
theorem kind_classify_congr (same : ∀ e, e ∈ rules'.map essence ↔ e ∈ rules.map essence)
    (agree : ∀ r ∈ rules, ∀ s ∈ rules, r.applies lexeme = true → s.applies lexeme = true →
      r.kind = s.kind) :
    ((Classifier.ofRules rules').classify lexeme).kind =
      ((Classifier.ofRules rules).classify lexeme).kind := by
  have back {s : TokenRule} (hs : s ∈ rules') : ∃ r ∈ rules, r.essence = s.essence :=
    List.mem_map.1 ((same _).1 (List.mem_map_of_mem hs))
  by_cases found : ∃ r ∈ rules, r.applies lexeme = true
  · obtain ⟨r, hr, applies⟩ := found
    obtain ⟨r', hr', essence⟩ := List.mem_map.1 ((same _).2 (List.mem_map_of_mem hr))
    have kind : r'.kind = r.kind := congrArg Prod.snd essence
    rw [kind_classify_of_applies hr applies fun s hs happ => agree s hs r hr happ applies, ← kind]
    refine kind_classify_of_applies hr' ((applies_congr essence lexeme).trans applies) ?_
    intro s' hs' happ
    obtain ⟨s, hs, same⟩ := back hs'
    rw [← applies_congr same] at happ
    rw [kind, ← agree s hs r hr happ applies]
    exact (congrArg Prod.snd same).symm
  · have fails (r : TokenRule) (hr : r ∈ rules) : r.applies lexeme = false :=
      Bool.eq_false_iff.2 fun applies => found ⟨r, hr, applies⟩
    have fails' (s' : TokenRule) (hs' : s' ∈ rules') : s'.applies lexeme = false := by
      obtain ⟨s, hs, same⟩ := back hs'
      exact (applies_congr same lexeme).symm.trans (fails s hs)
    rw [classify_of_counting?_eq_none (counting?_eq_none_iff.2 fails),
      classify_of_counting?_eq_none (counting?_eq_none_iff.2 fails')]

end TokenRule

/-! ### What texts are read as -/

/-- A text is read as a pattern, between anchors as well as on its own.  Whether the pattern is small
enough is left open. -/
def IsReadAs (text : List Char) (p : Pattern) : Prop :=
  ∃ w, written? text = some w ∧ '#' ∉ text ∧ w.depth + 2 ≤ greatestDepth ∧
    (Switches.initial.resolve? w).map Prod.fst = some p

theorem compile_of_isReadAs {r : TokenRule} {p : Pattern} (h : IsReadAs r.pattern.toList p) :
    r.compile = if p.anchored.isWithinLimit then some p.anchored else none := by
  obtain ⟨w, hw, comment, depth, hp⟩ := h
  obtain ⟨⟨p, s⟩, resolved, rfl⟩ := Option.map_eq_some_iff.1 hp
  have texts : TokenRule.anchored r.pattern = anchored r.pattern.toList := by
    rw [TokenRule.anchored, anchored]
    rfl
  have read := Reading.written?_anchored hw fun _ _ => .inr (hasOpenComment_of_notMem comment)
  have shallow : w.anchored.depth ≤ greatestDepth := by rwa [Written.depth_anchored]
  rw [TokenRule.compile, texts, Pattern.ofText?_eq, read, Option.filter_some,
    if_pos (decide_eq_true shallow), Option.bind_some, Switches.resolve?_anchored, resolved,
    Option.map_some, Option.bind_some]

/-- **A rule applies to the lexemes that its pattern matches as a whole**, if it is readable at all. -/
theorem TokenRule.applies_iff_of_isReadAs {r : TokenRule} {p : Pattern}
    (h : IsReadAs r.pattern.toList p) (lexeme : String) :
    r.applies lexeme = true ↔ r.isReadable = true ∧ p.isFullMatch lexeme.toList = true := by
  rw [applies, isReadable, compile_of_isReadAs h, ← Pattern.isMatch_anchored]
  cases p.anchored.isWithinLimit <;> simp

/-! ### The lexemes of the built-in rules -/

/-- A non-empty run of decimal digits, of any script. -/
def IsDigits (text : List Char) : Prop :=
  1 ≤ text.length ∧ ∀ c ∈ text, Unicode.Category.decimalDigit.has c = true

/-- The lexemes of a kind under the built-in rules. -/
def BuiltinLexeme : TokenKind → List Char → Prop
  | .identifier, text => ∃ c rest, text = c :: rest ∧ CodeSet.nameStarts.has c = true ∧
    ∀ d ∈ rest, Unicode.wordCharacter.has d = true
  | .number, text => IsDigits text ∨
    ∃ whole fraction, text = whole ++ '.' :: fraction ∧ IsDigits whole ∧ IsDigits fraction
  | .operator, text => ∃ c, text = [c] ∧ CodeSet.operatorSymbols.has c = true
  | .whitespace, text => 1 ≤ text.length ∧ ∀ c ∈ text, isBlank c = true
  | .unknown, _ => False

/-- The pattern that the built-in rule of a kind is read as. -/
def builtinPattern : TokenKind → Pattern
  | .identifier => .sequence (.assertion .textStart) (.sequence (.chars .nameStarts)
    (.sequence (.repeated (.chars Unicode.wordCharacter) 0 none) (.assertion .textEnd)))
  | .number => .sequence (.assertion .textStart) (.sequence digits
    (.sequence (.repeated (.group true (.sequence (.chars .point) digits)) 0 (some 1))
      (.assertion .textEnd)))
  | .operator => .sequence (.assertion .textStart)
    (.sequence (.chars .operatorSymbols) (.assertion .textEnd))
  | .whitespace => .sequence (.assertion .textStart)
    (.sequence (.repeated (.chars Unicode.Property.whiteSpace) 1 none) (.assertion .textEnd))
  | .unknown => .chars .empty
where
  /-- At least one decimal digit. -/
  digits : Pattern := .repeated (.chars Unicode.Category.decimalDigit) 1 none

theorem isReadAs_identifier :
    IsReadAs "^[a-zA-Z_]\\w*$".toList (builtinPattern .identifier) :=
  ⟨.sequence [.assertion .lineStart, .bracketed false (.union [.range ⟨'a', false⟩ ⟨'z', false⟩,
    .range ⟨'A', false⟩ ⟨'Z', false⟩, .literal ⟨'_', false⟩]),
    .repeated (.named false (.letter .word)) 0 none, .assertion .lineEnd],
    by with_unfolding_all rfl, by decide, by decide, rfl⟩

theorem isReadAs_number : IsReadAs "^\\d+(\\.\\d+)?$".toList (builtinPattern .number) :=
  ⟨.sequence [.assertion .lineStart, .repeated (.named false (.letter .digit)) 1 none,
    .repeated (.group true .none (.sequence [.literal ⟨'.', false⟩,
      .repeated (.named false (.letter .digit)) 1 none])) 0 (some 1), .assertion .lineEnd],
    by with_unfolding_all rfl, by decide, by decide, rfl⟩

theorem isReadAs_operator : IsReadAs "^[+\\-*/=<>!&|]$".toList (builtinPattern .operator) :=
  ⟨.sequence [.assertion .lineStart, .bracketed false (.union ("+-*/=<>!&|".toList.map
    fun c => .literal ⟨c, false⟩)), .assertion .lineEnd],
    by with_unfolding_all rfl, by decide, by decide, rfl⟩

theorem isReadAs_whitespace : IsReadAs "^\\s+$".toList (builtinPattern .whitespace) :=
  ⟨.sequence [.assertion .lineStart, .repeated (.named false (.letter .blank)) 1 none,
    .assertion .lineEnd], by with_unfolding_all rfl, by decide, by decide, rfl⟩

theorem isReadAs_builtin : ∀ r ∈ LexingSettings.builtin.rules,
    IsReadAs r.pattern.toList (builtinPattern r.kind) := by
  simp only [LexingSettings.builtin, List.forall_mem_cons]
  exact ⟨isReadAs_identifier, isReadAs_number, isReadAs_operator, isReadAs_whitespace, nofun⟩

theorem isFullMatch_builtinPattern (kind : TokenKind) (text : List Char) :
    (builtinPattern kind).isFullMatch text = true ↔ BuiltinLexeme kind text := by
  rw [Pattern.isFullMatch_iff_fits]
  cases kind with
  | identifier =>
    have read : (builtinPattern .identifier).Fits [] text [] ↔ ∃ rest c, text = c :: rest ∧
        CodeSet.nameStarts.has c = true ∧ ∀ d ∈ rest, Unicode.wordCharacter.has d = true := by
      simp [builtinPattern]
    rw [read, exists_comm, BuiltinLexeme]
  | number =>
    have read : (builtinPattern .number).Fits [] text [] ↔ ∃ whole rest, text = whole ++ rest ∧
        IsDigits whole ∧ (rest = [] ∨ ∃ fraction, rest = '.' :: fraction ∧ IsDigits fraction) := by
      simp [builtinPattern, builtinPattern.digits, IsDigits]
    rw [read, BuiltinLexeme]
    constructor
    · rintro ⟨whole, _, rfl, digits, rfl | ⟨fraction, rfl, digits'⟩⟩
      · exact .inl (by rwa [List.append_nil])
      · exact .inr ⟨whole, fraction, rfl, digits, digits'⟩
    · rintro (digits | ⟨whole, fraction, rfl, digits, digits'⟩)
      · exact ⟨text, [], (List.append_nil text).symm, digits, .inl rfl⟩
      · exact ⟨whole, _, rfl, digits, .inr ⟨fraction, rfl, digits'⟩⟩
  | operator => simp [builtinPattern, BuiltinLexeme]
  | whitespace => simp [builtinPattern, BuiltinLexeme, has_whiteSpace]
  | unknown =>
    have none (c : Char) : CodeSet.empty.has c = false := rfl
    simp [builtinPattern, BuiltinLexeme, none]

/-- **A built-in rule applies to the lexemes of its kind**, if it is readable at all. -/
theorem applies_iff_builtinLexeme {r : TokenRule} (hr : r ∈ LexingSettings.builtin.rules)
    (lexeme : String) : r.applies lexeme = true ↔
      r.isReadable = true ∧ BuiltinLexeme r.kind lexeme.toList := by
  rw [TokenRule.applies_iff_of_isReadAs (isReadAs_builtin r hr), isFullMatch_builtinPattern]

/-! ### No lexeme is of two kinds -/

/-- The kinds of tokens. -/
def TokenKind.all : List TokenKind :=
  [identifier, number, operator, whitespace, unknown]

theorem TokenKind.mem_all (kind : TokenKind) : kind ∈ all := by
  cases kind <;> decide

/-- The characters that the lexemes of a kind start with. -/
def firstCharacters : TokenKind → CodeSet
  | .identifier => .nameStarts
  | .number => Unicode.Category.decimalDigit
  | .operator => .operatorSymbols
  | .whitespace => Unicode.Property.whiteSpace
  | .unknown => .empty

theorem isDisjoint_firstCharacters {kind kind' : TokenKind} (h : kind ≠ kind') :
    (firstCharacters kind).isDisjoint (firstCharacters kind') = true := by
  have apart : ∀ k ∈ TokenKind.all, ∀ k' ∈ TokenKind.all, k ≠ k' →
      (firstCharacters k).isDisjoint (firstCharacters k') = true := by decide +kernel
  exact apart kind kind.mem_all kind' kind'.mem_all h

theorem BuiltinLexeme.exists_first {kind : TokenKind} {text : List Char} (h : BuiltinLexeme kind text) :
    ∃ c rest, text = c :: rest ∧ (firstCharacters kind).has c = true := by
  have first {q : Char → Prop} (long : 1 ≤ text.length) (all : ∀ c ∈ text, q c) :
      ∃ c rest, text = c :: rest ∧ q c := by
    obtain ⟨c, rest, rfl⟩ := List.exists_cons_of_length_pos long
    exact ⟨c, rest, rfl, all c List.mem_cons_self⟩
  cases kind with
  | identifier =>
    obtain ⟨c, rest, rfl, hc, -⟩ := h
    exact ⟨c, rest, rfl, hc⟩
  | number =>
    obtain ⟨long, digits⟩ | ⟨whole, fraction, rfl, ⟨long, digits⟩, -⟩ := h
    · exact first long digits
    · obtain ⟨c, rest, rfl⟩ := List.exists_cons_of_length_pos long
      exact ⟨c, _, rfl, digits c List.mem_cons_self⟩
  | operator =>
    obtain ⟨c, rfl, hc⟩ := h
    exact ⟨c, [], rfl, hc⟩
  | whitespace =>
    obtain ⟨long, blanks⟩ := h
    exact first long fun c hc => (has_whiteSpace c).trans (blanks c hc)
  | unknown => exact h.elim

/-- **No lexeme is of two kinds.** -/
theorem BuiltinLexeme.unique {kind kind' : TokenKind} {text : List Char} (h : BuiltinLexeme kind text)
    (h' : BuiltinLexeme kind' text) : kind = kind' := by
  obtain ⟨c, rest, rfl, hc⟩ := h.exists_first
  obtain ⟨_, _, same, hc'⟩ := h'.exists_first
  cases same
  by_contra differ
  exact CodeSet.not_has_of_isDisjoint (isDisjoint_firstCharacters differ) hc hc'

/-! ### The built-in governance -/

theorem builtin_exclusive {r s : TokenRule} {lexeme : String} (hr : r ∈ LexingSettings.builtin.rules)
    (hs : s ∈ LexingSettings.builtin.rules) (applies : r.applies lexeme = true)
    (applies' : s.applies lexeme = true) : r = s := by
  obtain ⟨-, h⟩ := (applies_iff_builtinLexeme hr lexeme).1 applies
  obtain ⟨-, h'⟩ := (applies_iff_builtinLexeme hs lexeme).1 applies'
  have kinds : ∀ r ∈ LexingSettings.builtin.rules, ∀ s ∈ LexingSettings.builtin.rules,
      r.kind = s.kind → r = s := by decide
  exact kinds r hr s hs (h.unique h')

/-- The built-in rule for blanks applies to no word. -/
theorem not_applies_whitespace {r : TokenRule} {word : String} (hr : r ∈ LexingSettings.builtin.rules)
    (blank : r.kind = .whitespace) (isWord : IsWord word.toList) : r.applies word = false := by
  rw [← Bool.not_eq_true, applies_iff_builtinLexeme hr, blank]
  rintro ⟨-, long, blanks⟩
  obtain ⟨c, rest, same⟩ := List.exists_cons_of_length_pos long
  have member : c ∈ word.toList := same ▸ List.mem_cons_self
  exact Bool.false_ne_true ((isWord.not_isBlank c member).symm.trans (blanks c member))

theorem tokenize_builtin_eq_ok_iff {source : String} {stream : TokenStream} :
    GovernanceStore.builtin.tokenize source = .ok stream ↔
      (Tokenizer.ofSettings .builtin).tokenize source = .ok stream := by
  have settings : GovernanceStore.builtin.settings .tokenizer StageRecord.lexingSettings =
      .ok .builtin := by
    have filed : GovernanceStore.builtin.record .tokenizer >>= StageRecord.lexingSettings =
        (builtinRecord .tokenizer).lexingSettings := rfl
    rw [GovernanceStore.settings, filed, lexingSettings_builtinRecord]
    rfl
  rw [GovernanceStore.tokenize_eq_ok_iff, Tokenizer.tokenize_eq_ok_iff]
  simp [settings, Tokenizer.ofSettings]

/-- **The built-in rules never compete.**  Each of them applies to the lexemes of its kind only, and at
most one of them applies to a lexeme.  So the kind of a lexeme is the same under these rules in any
order and with any priorities.  The rule for blanks applies to no word of a text, and no text has a
token for blanks under the built-in governance. -/
theorem applies_builtin_exclusive :
    (builtinRecord .tokenizer).lexingSettings = .ok .builtin ∧
    (∀ lexeme : String, ∀ r ∈ LexingSettings.builtin.rules,
      (r.applies lexeme = true ↔ r.isReadable = true ∧ BuiltinLexeme r.kind lexeme.toList) ∧
      ∀ s ∈ LexingSettings.builtin.rules, r.applies lexeme = true → s.applies lexeme = true → r = s) ∧
    (∀ rules : List TokenRule, (rules.map TokenRule.essence).Perm
        (LexingSettings.builtin.rules.map TokenRule.essence) →
      ∀ lexeme, (classify lexeme rules).kind = (classify lexeme LexingSettings.builtin.rules).kind) ∧
    (∀ source, ∀ word ∈ lexemes source, ∀ r ∈ LexingSettings.builtin.rules, r.kind = .whitespace →
      r.applies word = false) ∧
    ∀ source, ∃ stream, GovernanceStore.builtin.tokenize source = .ok stream ∧
      ∀ t ∈ stream.tokens, t.kind ≠ .whitespace := by
  refine ⟨lexingSettings_builtinRecord, fun lexeme r hr => ⟨applies_iff_builtinLexeme hr lexeme, ?_⟩,
    fun rules perm lexeme => ?_, fun source word hword r hr blank => ?_, fun source => ?_⟩
  · exact fun s hs => builtin_exclusive hr hs
  · refine TokenRule.kind_classify_congr (fun e => perm.mem_iff) fun r hr s hs applies applies' => ?_
    rw [builtin_exclusive hr hs applies applies']
  · exact not_applies_whitespace hr blank (isWord_of_mem_lexemes hword)
  · have accepted : (Tokenizer.ofSettings .builtin).tokenize source =
        .ok ((Tokenizer.ofSettings .builtin).streamOf source) :=
      Tokenizer.tokenize_eq_ok_iff.2 ⟨rfl, fun _ => rfl⟩
    refine ⟨_, tokenize_builtin_eq_ok_iff.2 accepted, fun t ht whitespace => ?_⟩
    obtain ⟨isWord, kind⟩ := Tokenizer.word_of_mem_tokens accepted ht
    rw [kind, TokenRule.kind_classify_eq_whitespace_iff] at whitespace
    obtain ⟨r, counts, blank⟩ := whitespace
    obtain ⟨hr, applies⟩ := TokenRule.mem_of_counting? counts
    rw [not_applies_whitespace hr blank isWord] at applies
    cases applies

/-- Digits that are not of ASCII are a number and, by that, nothing else; and the other way round with
equal priorities the rules say the same. -/
theorem applies_builtin_exclusive_reversed :
    let identifiers : TokenRule := ⟨"^[a-zA-Z_]\\w*$", .identifier, 100⟩
    let numbers : TokenRule := ⟨"^\\d+(\\.\\d+)?$", .number, 90⟩
    let blanks : TokenRule := ⟨"^\\s+$", .whitespace, 10⟩
    let reversed := LexingSettings.builtin.rules.reverse.map fun r => { r with priority := 7 }
    (identifiers ∈ LexingSettings.builtin.rules ∧ numbers ∈ LexingSettings.builtin.rules ∧
      numbers.applies "٣.٤" = true ∧ identifiers.applies "٣.٤" = false) ∧
    ((reversed.map TokenRule.essence).Perm (LexingSettings.builtin.rules.map TokenRule.essence) ∧
      ∀ lexeme, (classify lexeme reversed).kind =
        (classify lexeme LexingSettings.builtin.rules).kind) ∧
    "٣.٤" ∈ lexemes "x\u00a0٣.٤" ∧ blanks ∈ LexingSettings.builtin.rules ∧
      blanks.kind = .whitespace ∧ blanks.applies "٣.٤" = false := by
  intro identifiers numbers blanks reversed
  have hi : identifiers ∈ LexingSettings.builtin.rules := by decide
  have hn : numbers ∈ LexingSettings.builtin.rules := by decide
  have hb : blanks ∈ LexingSettings.builtin.rules := by decide
  have number : numbers.applies "٣.٤" = true := by decide +kernel
  have perm : (reversed.map TokenRule.essence).Perm
      (LexingSettings.builtin.rules.map TokenRule.essence) := by decide
  have word : "٣.٤" ∈ lexemes "x\u00a0٣.٤" := by decide
  obtain ⟨-, exclusive, orders, words, -⟩ := applies_builtin_exclusive
  refine ⟨⟨hi, hn, number, ?_⟩, ⟨perm, orders reversed perm⟩, word, hb, rfl,
    words _ _ word blanks hb rfl⟩
  rw [← Bool.not_eq_true]
  intro identifier
  exact absurd ((exclusive _ _ hn).2 _ hi number identifier) (by decide)

end GovernedExpr
