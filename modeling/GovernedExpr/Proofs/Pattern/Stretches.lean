import GovernedExpr.Proofs.Pattern.Anchoring

/-!
# What a match reads

A pattern carries a mark over characters of its sets, and over no others.  So a text that a pattern
matches as a whole consists of such characters.

* `Pattern.sets` are the sets of characters that stand in a pattern;
* `Marks.Follows` says that each mark has been carried over some characters from a mark before, and
  `Pattern.follows_reach` that this holds of the marks that a pattern reaches;
* `Pattern.reads_of_isFullMatch` says what this means for whole texts;
* `CodeSet.holdsBlanks` and `Pattern.readsBlanks` are checks for sets and patterns of blanks, and
  `Pattern.isBlank_of_isFullMatch` says that such a pattern matches blanks only.
-/

namespace GovernedExpr

open Text

/-! ### Marks that follow others -/

namespace Marks

/-- Each marked place of the second is reached from a marked place of the first over characters that
satisfy a condition. -/
def Follows (q : Char → Prop) (text : List Char) (m k : Marks) : Prop :=
  ∀ j : Nat, k[j]? = some true → ∃ i ≤ j, m[i]? = some true ∧
    ∀ n c, i ≤ n → n < j → text[n]? = some c → q c

variable {q q' : Char → Prop} {text : List Char} {m k k' : Marks}

theorem Follows.refl (m : Marks) : Follows q text m m :=
  fun j hj => ⟨j, Nat.le_refl j, hj, fun _ _ le lt => absurd lt (Nat.not_lt.2 le)⟩

/-- Places that are among the marked ones follow them. -/
theorem Follows.of_marked (h : ∀ j : Nat, k[j]? = some true → m[j]? = some true) :
    Follows q text m k :=
  fun j hj => Follows.refl m j (h j hj)

theorem Follows.trans (h : Follows q text m k) (h' : Follows q text k k') : Follows q text m k' := by
  intro j hj
  obtain ⟨middle, middle_le, hmiddle, behind⟩ := h' j hj
  obtain ⟨i, i_le, hi, before⟩ := h middle hmiddle
  refine ⟨i, Nat.le_trans i_le middle_le, hi, fun n c i_le_n n_lt hc => ?_⟩
  obtain n_lt' | middle_le' := Nat.lt_or_ge n middle
  · exact before n c i_le_n n_lt' hc
  · exact behind n c middle_le' n_lt hc

theorem Follows.mono (h : Follows q text m k) (weaker : ∀ c, q c → q' c) : Follows q' text m k := by
  intro j hj
  obtain ⟨i, i_le, hi, read⟩ := h j hj
  exact ⟨i, i_le, hi, fun n c le lt hc => weaker c (read n c le lt hc)⟩

theorem Follows.join (h : Follows q text m k) (h' : Follows q text m k') :
    Follows q text m (k.join k') := by
  intro j hj
  obtain ⟨a, b, ha, hb, hab⟩ := List.getElem?_zipWith_eq_some.1 hj
  obtain rfl | rfl := Bool.or_eq_true_iff.1 hab
  · exact h j ha
  · exact h' j hb

/-- A mark is carried over one character of the set. -/
theorem follows_advance (set : CodeSet) (text : List Char) (m : Marks) :
    Follows (fun c => set.has c = true) text m (m.advance set text) := by
  intro j hj
  cases j with
  | zero => cases hj
  | succ j =>
    rw [advance, List.getElem?_cons_succ] at hj
    obtain ⟨d, marked, hd, hmarked, both⟩ := List.getElem?_zipWith_eq_some.1 hj
    obtain ⟨rfl, member⟩ := Bool.and_eq_true_iff.1 both
    refine ⟨j, Nat.le_succ j, hmarked, fun n c le lt hc => ?_⟩
    obtain rfl : n = j := by omega
    obtain rfl := Option.some.inj (hc.symm.trans hd)
    exact member

theorem follows_keep (a : Assertion) (text : List Char) (m : Marks) :
    Follows q text m (m.keep a text) := by
  refine Follows.of_marked fun j hj => ?_
  obtain ⟨_, marked, -, hmarked, both⟩ := List.getElem?_zipWith_eq_some.1 hj
  obtain ⟨rfl, -⟩ := Bool.and_eq_true_iff.1 both
  exact hmarked

variable {step : Marks → Marks} (follows : ∀ m, Follows q text m (step m))
include follows

theorem follows_iterate (n : Nat) (m : Marks) : Follows q text m (iterate step n m) := by
  induction n generalizing m with
  | zero => exact .refl m
  | succ n ih =>
    rw [iterate]
    split
    · exact (follows m).trans (ih (step m))
    · exact .refl m

theorem follows_saturate (n : Nat) (m : Marks) : Follows q text m (saturate step n m) := by
  induction n generalizing m with
  | zero => exact .refl m
  | succ n ih =>
    rw [saturate]
    split
    · exact .refl m
    · exact ((Follows.refl m).join (follows m)).trans (ih _)

end Marks

/-! ### The characters that a pattern reads -/

namespace Pattern

/-- The sets of characters in a pattern. -/
def sets : Pattern → List CodeSet
  | empty | assertion _ => []
  | chars set => [set]
  | sequence first second | either first second => first.sets ++ second.sets
  | repeated body _ _ | group _ body => body.sets

/-- Whether a character is in a set of a pattern. -/
def Reads (p : Pattern) (c : Char) : Prop :=
  ∃ set ∈ p.sets, set.has c = true

variable {p first second : Pattern} {c : Char} {text : List Char}

@[simp] theorem reads_chars {set : CodeSet} : (chars set).Reads c ↔ set.has c = true := by
  simp [Reads, sets]

@[simp] theorem reads_sequence :
    (sequence first second).Reads c ↔ first.Reads c ∨ second.Reads c := by
  simp [Reads, sets, or_and_right, exists_or]

@[simp] theorem reads_either : (either first second).Reads c ↔ first.Reads c ∨ second.Reads c := by
  simp [Reads, sets, or_and_right, exists_or]

/-- **A pattern carries marks over the characters of its sets only.** -/
theorem follows_reach (p : Pattern) (text : List Char) (m : Marks) :
    Marks.Follows p.Reads text m (p.reach text m) := by
  induction p generalizing m with
  | empty => exact .refl m
  | chars set =>
    exact (Marks.follows_advance set text m).mono fun c => reads_chars.2
  | assertion a => exact Marks.follows_keep a text m
  | sequence first second first_ih second_ih =>
    exact ((first_ih m).mono fun c hc => reads_sequence.2 (.inl hc)).trans
      ((second_ih (first.reach text m)).mono fun c hc => reads_sequence.2 (.inr hc))
  | either first second first_ih second_ih =>
    exact ((first_ih m).mono fun c hc => reads_either.2 (.inl hc)).join
      ((second_ih m).mono fun c hc => reads_either.2 (.inr hc))
  | repeated body least most ih =>
    cases most with
    | none => exact (Marks.follows_iterate ih _ m).trans (Marks.follows_saturate ih _ _)
    | some most => exact (Marks.follows_iterate ih _ m).trans (Marks.follows_saturate ih _ _)
  | group captures body ih => exact ih m

/-- **A text that a pattern matches as a whole consists of characters that it reads.** -/
theorem reads_of_isFullMatch (h : p.isFullMatch text = true) (hc : c ∈ text) : p.Reads c := by
  obtain ⟨i, -, start, read⟩ := follows_reach p text _ _ (beq_iff_eq.1 h)
  -- the only mark that was there is the one at the start
  obtain rfl := (Marks.getElem?_atStart text i).1 start
  obtain ⟨n, hn⟩ := List.getElem?_of_mem hc
  obtain ⟨lt, -⟩ := List.getElem?_eq_some_iff.1 hn
  exact read n c (Nat.zero_le n) lt hn

end Pattern

/-! ### Patterns of blanks -/

/-- Whether each range of a set lies within a range of blanks. -/
def Text.CodeSet.holdsBlanks (s : CodeSet) : Bool :=
  s.ranges.all fun r => blankRanges.any fun b => b.1 ≤ r.1 && r.2 ≤ b.2

/-- Whether the sets of a pattern hold nothing but blanks. -/
def Pattern.readsBlanks (p : Pattern) : Bool :=
  p.sets.all CodeSet.holdsBlanks

namespace Text.CodeSet

theorem isBlank_of_holdsBlanks {s : CodeSet} {c : Char} (h : s.holdsBlanks = true)
    (hc : s.has c = true) : isBlank c = true := by
  obtain ⟨r, hr, le_c, c_le⟩ := contains_iff.1 hc
  obtain ⟨b, hb, within⟩ := List.any_eq_true.1 (List.all_eq_true.1 h r hr)
  obtain ⟨le_r, r_le⟩ : b.1 ≤ r.1 ∧ r.2 ≤ b.2 := by simpa using within
  exact List.any_eq_true.2 ⟨b, hb, by simpa using ⟨Nat.le_trans le_r le_c, Nat.le_trans c_le r_le⟩⟩

end Text.CodeSet

/-- A pattern of blanks matches no other text as a whole, but perhaps the empty one. -/
theorem Pattern.isBlank_of_isFullMatch {p : Pattern} {text : List Char} {c : Char}
    (blanks : p.readsBlanks = true) (h : p.isFullMatch text = true) (hc : c ∈ text) :
    isBlank c = true := by
  obtain ⟨set, hset, member⟩ := reads_of_isFullMatch h hc
  exact CodeSet.isBlank_of_holdsBlanks (List.all_eq_true.1 blanks set hset) member

end GovernedExpr
