import Mathlib.Data.List.Induction
import GovernedExpr.Lexing.Classifier

/-!
# The rule that counts

Of the rules that apply to a lexeme, one pass from left to right finds the rule that stands first
when the rules are sorted stably by descending priority.

* `TokenRule.byPriority` numbers rules from 1 and sorts them;
* `Classifier.foldl_better_filter` says that the pass finds the first of the sorted rules that
  satisfies a condition, whatever the condition is;
* `TokenRule.rank` is the number of a readable rule when the unreadable ones are left out, and
  `Classifier.winner?_ofRules_readable` says that leaving them out changes nothing but the numbers;
* `classify_ofRules` puts together what a classifier says of a lexeme and what it reports.

Nothing here depends on which patterns can be read and on what they match.
-/

namespace GovernedExpr

namespace TokenRule

/-- Whether the pattern of a rule can be read. -/
def isReadable (r : TokenRule) : Bool :=
  r.compile.isSome

/-- Whether the pattern of a rule matches a lexeme. -/
def applies (r : TokenRule) (lexeme : String) : Bool :=
  r.compile.any fun p => p.isMatch lexeme.toList

/-- Rules with their numbers from 1, sorted by descending priority; rules of one priority stay in
their order. -/
def byPriority (rules : List TokenRule) : List (TokenRule × Nat) :=
  (rules.zipIdx 1).mergeSort fun r s => s.1.priority ≤ r.1.priority

/-- The number that a rule has when the unreadable ones are left out, by its number before. -/
def rank (rules : List TokenRule) (number : Nat) : Nat :=
  (rules.take number).countP isReadable

theorem isReadable_of_applies {r : TokenRule} {lexeme : String} (h : r.applies lexeme = true) :
    r.isReadable = true := by
  unfold applies at h
  unfold isReadable
  cases hr : r.compile with
  | none => simp [hr] at h
  | some p => rfl

variable {rules : List TokenRule} {r : TokenRule} {n : Nat}

theorem mem_zipIdx_one : (r, n) ∈ rules.zipIdx 1 ↔ ∃ i, n = i + 1 ∧ rules[i]? = some r := by
  rw [List.mem_zipIdx_iff_le_and_getElem?_sub]
  constructor
  · rintro ⟨hn, hr⟩
    exact ⟨n - 1, by omega, hr⟩
  · rintro ⟨i, rfl, hr⟩
    exact ⟨Nat.le_add_left 1 i, by simpa using hr⟩

/-- Numbering the readable rules afresh gives each its rank. -/
theorem zipIdx_filter_isReadable (rules : List TokenRule) :
    (rules.filter isReadable).zipIdx 1 =
      ((rules.zipIdx 1).filter fun r => r.1.isReadable).map fun r => (r.1, rank rules r.2) := by
  -- by induction from the end of the list, since a rank counts the rules before a rule
  induction rules using List.reverseRecOn with
  | nil => rfl
  | append_singleton rules r ih =>
    have before : ∀ s ∈ (rules.zipIdx 1).filter fun s => s.1.isReadable,
        (s.1, rank rules s.2) = (s.1, rank (rules ++ [r]) s.2) := by
      rintro ⟨s, n⟩ hs
      obtain ⟨i, rfl, hi⟩ := mem_zipIdx_one.1 (List.mem_filter.1 hs).1
      obtain ⟨hlt, -⟩ := List.getElem?_eq_some_iff.1 hi
      rw [rank, rank, List.take_append_of_le_length hlt]
    rw [List.filter_append, List.zipIdx_append, List.zipIdx_append, List.filter_append,
      List.map_append, ih, List.map_congr_left before]
    congr 1
    by_cases hr : r.isReadable
    · have last : rank (rules ++ [r]) (rules.length + 1) = (rules.filter isReadable).length + 1 := by
        rw [rank, List.take_of_length_le (by simp), List.countP_append,
          List.countP_eq_length_filter, List.countP_singleton, if_pos hr]
      simp [hr, last, Nat.add_comm]
    · simp [hr]

end TokenRule

namespace Classifier

open TokenRule

variable {rules : List TokenRule} {lexeme : String}

/-! ### The pass from left to right -/

/-- The first of some rules counts unless a later one has a greater priority. -/
theorem foldl_better_cons (r : CompiledRule) (rules : List CompiledRule) :
    (r :: rules).foldl better none =
      match rules.foldl better none with
      | none => some r
      | some best => if best.rule.priority ≤ r.rule.priority then some r else some best := by
  rw [List.foldl_cons, better]
  induction rules generalizing r with
  | nil => rfl
  | cons s rules ih =>
    rw [List.foldl_cons, List.foldl_cons, better, better, ih s]
    by_cases hs : s.rule.priority ≤ r.rule.priority
    · rw [if_pos hs, ih r]
      cases rules.foldl better none with
      | none => simp [hs]
      | some best => by_cases hb : best.rule.priority ≤ s.rule.priority <;> grind
    · rw [if_neg hs, ih s]
      cases rules.foldl better none with
      | none => simp [hs]
      | some best => by_cases hb : best.rule.priority ≤ s.rule.priority <;> grind

/-- **One pass over the rules that satisfy a condition finds the first of them in the stable order
by descending priority.** -/
theorem foldl_better_filter (p : CompiledRule → Bool) (rules : List CompiledRule) :
    (rules.filter p).foldl better none =
      (rules.mergeSort fun r s => s.rule.priority ≤ r.rule.priority).find? p := by
  have trans (a b c : CompiledRule) (hab : decide (b.rule.priority ≤ a.rule.priority) = true)
      (hbc : decide (c.rule.priority ≤ b.rule.priority) = true) :
      decide (c.rule.priority ≤ a.rule.priority) = true := by
    simp only [decide_eq_true_eq] at *
    omega
  have total (a b : CompiledRule) : (decide (b.rule.priority ≤ a.rule.priority) ||
      decide (a.rule.priority ≤ b.rule.priority)) = true := by
    simp only [Bool.or_eq_true, decide_eq_true_eq]
    omega
  induction rules with
  | nil => simp
  | cons r rules ih =>
    -- the sort puts a rule behind those of greater priority and in front of all others
    obtain ⟨greater, others, hcons, hrules, hgreater⟩ := List.mergeSort_cons trans total r rules
    have hothers : ∀ s ∈ others, s.rule.priority ≤ r.rule.priority := by
      have sorted := List.pairwise_mergeSort trans total (r :: rules)
      rw [hcons] at sorted
      simpa using (List.pairwise_cons.1 (List.pairwise_append.1 sorted).2.1).1
    rw [hcons]
    rw [hrules] at ih
    by_cases hr : p r
    · rw [List.filter_cons_of_pos hr, foldl_better_cons, ih, List.find?_append, List.find?_append,
        List.find?_cons_of_pos hr]
      cases hg : greater.find? p with
      | some best =>
        have := hgreater best (List.mem_of_find?_eq_some hg)
        simp only [Bool.not_eq_true', decide_eq_false_iff_not] at this
        simp [this]
      | none =>
        cases ho : others.find? p with
        | none => simp
        | some best => simp [hothers best (List.mem_of_find?_eq_some ho)]
    · rw [List.filter_cons_of_neg hr, ih, List.find?_append, List.find?_append,
        List.find?_cons_of_neg hr]

/-! ### Numbered rules -/

/-- A rule as the classifier holds it, by the rule and its number. -/
def compiled (r : TokenRule × Nat) : CompiledRule :=
  ⟨r.2, r.1, r.1.compile⟩

theorem rules_ofRules (rules : List TokenRule) :
    (ofRules rules).rules = (rules.zipIdx 1).map compiled := by
  rw [ofRules, List.mapIdx_eq_zipIdx_map, List.zipIdx_succ, List.map_map]
  rfl

theorem applies_compiled (lexeme : String) (r : TokenRule × Nat) :
    (compiled r).applies lexeme.toList = r.1.applies lexeme := rfl

/-- The rule that counts is the first one that applies in the stable order by priority. -/
theorem winner?_ofRules (rules : List TokenRule) (lexeme : String) :
    (ofRules rules).winner? lexeme =
      ((byPriority rules).find? fun r => r.1.applies lexeme).map compiled := by
  have sorted : ((rules.zipIdx 1).map compiled).mergeSort
      (fun r s => s.rule.priority ≤ r.rule.priority) = (byPriority rules).map compiled :=
    (List.map_mergeSort (f := compiled) fun _ _ _ _ => rfl).symm
  rw [winner?, foldl_better_filter, rules_ofRules, sorted, List.find?_map]
  rfl

theorem classify_ofRules_eq (rules : List TokenRule) (lexeme : String) :
    (ofRules rules).classify lexeme =
      match (byPriority rules).find? fun r => r.1.applies lexeme with
      | some (r, n) => ⟨r.kind, r.priority, some n⟩
      | none => ⟨.unknown, 0, none⟩ := by
  rw [classify, winner?_ofRules]
  cases (byPriority rules).find? fun r => r.1.applies lexeme <;> rfl

/-- The rule that counts is one of the given rules, and it is readable. -/
theorem mem_of_rule_classify {n : Nat} (h : ((ofRules rules).classify lexeme).rule = some n) :
    ∃ r, (r, n) ∈ (rules.zipIdx 1).filter fun r => r.1.isReadable := by
  rw [classify_ofRules_eq] at h
  cases found : (byPriority rules).find? fun r => r.1.applies lexeme with
  | none => simp [found] at h
  | some s =>
    obtain ⟨r, m⟩ := s
    obtain rfl : m = n := by simpa [found] using h
    have member := List.mem_of_find?_eq_some found
    have applies := List.find?_some found
    exact ⟨r, List.mem_filter.2 ⟨List.mem_mergeSort.1 member, isReadable_of_applies applies⟩⟩

/-! ### Unreadable rules -/

/-- The same rule under another number. -/
def renumbered (f : Nat → Nat) (r : CompiledRule) : CompiledRule :=
  { r with number := f r.number }

/-- The numbers of rules do not matter for which one is found. -/
theorem foldl_better_map_renumbered (f : Nat → Nat) (rules : List CompiledRule) :
    (rules.map (renumbered f)).foldl better none =
      (rules.foldl better none).map (renumbered f) := by
  induction rules with
  | nil => rfl
  | cons r rules ih =>
    rw [List.map_cons, foldl_better_cons, foldl_better_cons, ih]
    cases rules.foldl better none with
    | none => rfl
    | some best =>
      by_cases hb : best.rule.priority ≤ r.rule.priority <;> simp [renumbered, hb]

/-- Leaving the unreadable rules out changes the number of the rule that counts, and nothing
else. -/
theorem winner?_ofRules_readable (rules : List TokenRule) (lexeme : String) :
    (ofRules (rules.filter isReadable)).winner? lexeme =
      ((ofRules rules).winner? lexeme).map (renumbered (rank rules)) := by
  -- unreadable rules do not apply, so the pass sees the same rules under other numbers
  have readable : ∀ r ∈ rules.zipIdx 1, (r.1.applies lexeme && r.1.isReadable) =
      r.1.applies lexeme := by
    intro r _
    cases h : r.1.applies lexeme with
    | false => rfl
    | true => rw [isReadable_of_applies h]; rfl
  rw [winner?, winner?, ← foldl_better_map_renumbered, rules_ofRules, rules_ofRules,
    zipIdx_filter_isReadable, List.filter_map, List.filter_map, List.filter_map, List.filter_filter]
  simp only [Function.comp_def, applies_compiled, List.filter_congr readable, List.map_map]
  rfl

/-- The rules that are reported are the unreadable ones, in their order and with their numbers. -/
theorem diagnostics_ofRules (rules : List TokenRule) :
    (ofRules rules).diagnostics =
      ((rules.zipIdx 1).filter fun r => !r.1.isReadable).map compiled := by
  rw [diagnostics, rules_ofRules, List.filter_map]
  simp only [Function.comp_def, compiled, isReadable, Option.not_isSome]

theorem classify_ofRules_readable (rules : List TokenRule) (lexeme : String) :
    (ofRules (rules.filter isReadable)).classify lexeme =
      let c := (ofRules rules).classify lexeme
      { c with rule := c.rule.map (rank rules) } := by
  rw [classify, classify, winner?_ofRules_readable]
  cases (ofRules rules).winner? lexeme <;> rfl

end Classifier

/-- **The law of classification.**  A lexeme gets the kind, the priority and the number of the
first rule that applies to it in the stable order by descending priority, and without such a rule
it is unknown; bare rules say the same.  What is reported are the rules that cannot be read.  None
of them ever counts, and without them every lexeme gets the same kind and priority by the same
rule, under its number among those that are left. -/
theorem classify_ofRules (rules : List TokenRule) (lexeme : String) :
    let c := (Classifier.ofRules rules).classify lexeme
    let readable := rules.filter TokenRule.isReadable
    (c = match (TokenRule.byPriority rules).find? fun r => r.1.applies lexeme with
      | some (r, n) => ⟨r.kind, r.priority, some n⟩
      | none => ⟨.unknown, 0, none⟩) ∧
    classify lexeme rules = c ∧
    (Classifier.ofRules rules).diagnostics.map (fun d => (d.rule, d.number)) =
      (rules.zipIdx 1).filter (fun r => !r.1.isReadable) ∧
    (∀ n ∈ c.rule, ∃ i r, n = i + 1 ∧ rules[i]? = some r ∧ r.isReadable = true ∧
      ∃ j, TokenRule.rank rules n = j + 1 ∧ readable[j]? = some r) ∧
    (Classifier.ofRules readable).classify lexeme =
      { c with rule := c.rule.map (TokenRule.rank rules) } := by
  intro c readable
  refine ⟨Classifier.classify_ofRules_eq rules lexeme, rfl, ?_, ?_,
    Classifier.classify_ofRules_readable rules lexeme⟩
  · rw [Classifier.diagnostics_ofRules, List.map_map]
    exact List.map_id _
  · intro n hn
    obtain ⟨r, hr⟩ := Classifier.mem_of_rule_classify hn
    obtain ⟨member, isReadable⟩ := List.mem_filter.1 hr
    obtain ⟨i, rfl, hi⟩ := TokenRule.mem_zipIdx_one.1 member
    have ranked : (r, TokenRule.rank rules (i + 1)) ∈ readable.zipIdx 1 := by
      rw [TokenRule.zipIdx_filter_isReadable]
      exact List.mem_map.2 ⟨_, hr, rfl⟩
    exact ⟨i, r, rfl, hi, isReadable, TokenRule.mem_zipIdx_one.1 ranked⟩

/-- An unreadable rule does not count, but keeps its number. -/
example : classify "5" [⟨"[0-9]+", .number, 90⟩, ⟨"(", .operator, 99⟩, ⟨".", .unknown, 95⟩] =
    ⟨.unknown, 95, some 3⟩ := by
  decide +kernel

end GovernedExpr
