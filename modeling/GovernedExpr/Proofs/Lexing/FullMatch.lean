import GovernedExpr.Proofs.Lexing.Classification
import GovernedExpr.Proofs.Pattern.Runs

/-!
# Matches of whole lexemes

A rule is meant to apply to the lexemes that its pattern matches as a whole.  For this the text of the
pattern is put between anchors, so it holds of the texts that stay together there: what is between the
anchors is read as the pattern is on its own.

* `TokenRule.matchesWhole` is what a rule is meant to do, by its pattern on its own;
* `IsSelfContained` says that a pattern stays together between anchors;
* `compile_of_isSelfContained` says what such a pattern is compiled to;
* `applies_of_isSelfContained` says that rules with such patterns do what they are meant to do, and
  `not_forall_applies_eq` that other rules do not.
-/

namespace GovernedExpr

open Reading

/-- Whether a rule is meant to apply to a lexeme: its pattern is one on its own and matches the whole
lexeme. -/
def TokenRule.matchesWhole (r : TokenRule) (lexeme : String) : Bool :=
  (Pattern.ofText? r.pattern.toList).any fun p => p.isFullMatch lexeme.toList

/-- A pattern that stays together between anchors. -/
structure IsSelfContained (text : List Char) : Prop where
  /-- If the text is not a pattern on its own, nothing in front of a closing parenthesis is one, so that
  the parenthesis could end it. -/
  closed : written? text = none →
    ∀ n < text.length, text[n]? = some ')' → written? (text.take n) = none
  /-- Where the pattern ends, no comment hides what follows. -/
  settled : ∀ e ∈ ending? text, e.extended = false ∨ hasOpenComment text = false
  /-- The anchors do not make the pattern nest too deep. -/
  depth_le : ∀ w ∈ written? text, w.depth ≤ greatestDepth → w.anchored.depth ≤ greatestDepth
  /-- The anchors do not take the pattern over the limit of its size. -/
  isWithinLimit_eq : ∀ w ∈ written? text, ∀ q ∈ Switches.initial.resolve? w,
    q.1.anchored.isWithinLimit = q.1.isWithinLimit

instance (text : List Char) : Decidable (IsSelfContained text) :=
  decidable_of_iff
    ((written? text = none → ∀ n < text.length, text[n]? = some ')' →
        written? (text.take n) = none) ∧
      (∀ e ∈ ending? text, e.extended = false ∨ hasOpenComment text = false) ∧
      (∀ w ∈ written? text, w.depth ≤ greatestDepth → w.anchored.depth ≤ greatestDepth) ∧
      ∀ w ∈ written? text, ∀ q ∈ Switches.initial.resolve? w,
        q.1.anchored.isWithinLimit = q.1.isWithinLimit)
    ⟨fun ⟨h₁, h₂, h₃, h₄⟩ => ⟨h₁, h₂, h₃, h₄⟩, fun h => ⟨h.1, h.2, h.3, h.4⟩⟩

theorem hasOpenComment_of_notMem {text : List Char} (h : '#' ∉ text) :
    hasOpenComment text = false := by
  induction text with
  | nil => rfl
  | cons c text ih =>
    rw [List.mem_cons, not_or] at h
    rw [hasOpenComment, ih h.2, beq_false_of_ne (Ne.symm h.1)]
    rfl

/-- A pattern that stays together is read between anchors as it is read on its own. -/
theorem IsSelfContained.written?_anchored {text : List Char} (h : IsSelfContained text) :
    written? (anchored text) = (written? text).map Written.anchored := by
  cases alone : written? text with
  | some p => exact Reading.written?_anchored alone h.settled
  | none =>
    rw [Option.map_none, Option.eq_none_iff_forall_not_mem]
    intro q hq
    obtain ⟨p, hp, -⟩ | ⟨before, after, rfl, hbefore⟩ := exists_of_written?_anchored hq
    · rw [alone] at hp
      cases hp
    · have hnone := h.closed alone before.length (by simp) (by simp)
      rw [List.take_left] at hnone
      rw [hnone] at hbefore
      cases hbefore

/-- The pattern of a text, by what the text is read as. -/
theorem Pattern.ofText?_eq (text : List Char) :
    Pattern.ofText? text =
      ((written? text).filter fun w => w.depth ≤ greatestDepth).bind fun w =>
        (Switches.initial.resolve? w).bind fun q => if q.1.isWithinLimit then some q.1 else none := by
  rw [Pattern.ofText?, Reading.ofText?_eq]
  rfl

/-- **A pattern that stays together compiles to itself between anchors**, if it is a pattern on its own,
and does not compile otherwise. -/
theorem compile_of_isSelfContained {r : TokenRule} (h : IsSelfContained r.pattern.toList) :
    r.compile = (Pattern.ofText? r.pattern.toList).map Pattern.anchored := by
  have texts : TokenRule.anchored r.pattern = anchored r.pattern.toList := by
    rw [TokenRule.anchored, anchored]
    rfl
  rw [TokenRule.compile, texts, Pattern.ofText?_eq, Pattern.ofText?_eq, h.written?_anchored]
  cases hw : written? r.pattern.toList with
  | none => rfl
  | some w =>
    have depth : w.anchored.depth ≤ greatestDepth ↔ w.depth ≤ greatestDepth := by
      refine ⟨fun le => ?_, h.depth_le w hw⟩
      rw [Written.depth_anchored] at le
      omega
    simp only [Option.map_some, Option.filter_some, depth]
    by_cases hd : w.depth ≤ greatestDepth
    · simp only [hd, decide_true, if_true, Option.bind_some, Switches.resolve?_anchored]
      cases hq : Switches.initial.resolve? w with
      | none => rfl
      | some q =>
        simp only [Option.map_some, Option.bind_some, h.isWithinLimit_eq w hw q hq]
        cases q.1.isWithinLimit <;> rfl
    · simp [hd]

variable {rules : List TokenRule} {r : TokenRule} {i : Nat}

theorem applies_eq_matchesWhole (h : IsSelfContained r.pattern.toList) (lexeme : String) :
    r.applies lexeme = r.matchesWhole lexeme := by
  rw [TokenRule.applies, TokenRule.matchesWhole, compile_of_isSelfContained h, Option.any_map]
  simp only [Pattern.isMatch_anchored]

/-- A rule is reported, with its number, if its pattern cannot be read. -/
theorem mem_diagnostics_iff (hr : rules[i]? = some r) :
    (r, i + 1) ∈ (Classifier.ofRules rules).diagnostics.map (fun d => (d.rule, d.number)) ↔
      r.compile = none := by
  have numbered : (r, i + 1) ∈ rules.zipIdx 1 := TokenRule.mem_zipIdx_one.2 ⟨i, rfl, hr⟩
  have pairs : (Classifier.ofRules rules).diagnostics.map (fun d => (d.rule, d.number)) =
      (rules.zipIdx 1).filter fun s => !s.1.isReadable := by
    rw [Classifier.diagnostics_ofRules, List.map_map]
    exact List.map_id _
  rw [pairs, List.mem_filter, TokenRule.isReadable, Bool.not_eq_true', Option.isSome_eq_false_iff,
    Option.isNone_iff_eq_none]
  exact and_iff_right numbered

/-- **A rule with a pattern that stays together applies to the lexemes that its pattern matches as a
whole**, and to no others.  If its pattern is none on its own, it applies to nothing and is reported,
and otherwise it is not. -/
theorem applies_of_isSelfContained (hr : rules[i]? = some r)
    (h : IsSelfContained r.pattern.toList) :
    (∀ lexeme, r.applies lexeme = true ↔ ∃ p, Pattern.ofText? r.pattern.toList = some p ∧
      p.isFullMatch lexeme.toList = true) ∧
    ((r, i + 1) ∈ (Classifier.ofRules rules).diagnostics.map (fun d => (d.rule, d.number)) ↔
      Pattern.ofText? r.pattern.toList = none) := by
  refine ⟨fun lexeme => ?_, ?_⟩
  · rw [applies_eq_matchesWhole h, TokenRule.matchesWhole, Option.any_eq_true]
  · rw [mem_diagnostics_iff hr, compile_of_isSelfContained h, Option.map_eq_none_iff]

/-- Groups, choices and comments do no harm as such. -/
theorem applies_of_isSelfContained_decimal :
    let r : TokenRule := ⟨"(?x) [0-9]+ (\\. [0-9]+ | ) # :)\n", .number, 90⟩
    [r][0]? = some r ∧ IsSelfContained r.pattern.toList ∧
      (∀ lexeme, r.applies lexeme = true ↔ ∃ p, Pattern.ofText? r.pattern.toList = some p ∧
        p.isFullMatch lexeme.toList = true) ∧
      ((r, 1) ∈ (Classifier.ofRules [r]).diagnostics.map (fun d => (d.rule, d.number)) ↔
        Pattern.ofText? r.pattern.toList = none) := by
  intro r
  have hr : [r][0]? = some r := rfl
  have h : IsSelfContained r.pattern.toList := by decide +kernel
  exact ⟨hr, h, applies_of_isSelfContained hr h⟩

/-- **Rules with other patterns do something else.**  Some apply to lexemes that their patterns do not
match as a whole, since they are none, and some do not apply where their patterns match. -/
theorem not_forall_applies_eq :
    (¬ ∀ r lexeme, TokenRule.matchesWhole r lexeme = false → r.applies lexeme = false) ∧
    ¬ ∀ r lexeme, TokenRule.matchesWhole r lexeme = true → r.applies lexeme = true := by
  constructor
  · intro law
    have applies := law ⟨"a)|(?:b", .identifier, 10⟩ "ax"
    revert applies
    decide +kernel
  · intro law
    have applies := law ⟨"(?x)[0-9]+ # digits", .number, 20⟩ "42"
    revert applies
    decide +kernel

end GovernedExpr
