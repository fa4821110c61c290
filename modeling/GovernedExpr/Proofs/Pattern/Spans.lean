import GovernedExpr.Proofs.Pattern.Anchoring

/-!
# The stretches that a pattern matches

Marks are carried through a pattern from all places of a text at once, and a repetition is cut off after
so many rounds.  What this comes to is said here of one stretch at a time, and without a limit.

* `Times` is a number of steps from place to place, and `times_iff_of_le` says that steps that never
  lead back need not be more than the places;
* `Pattern.Spans` says which stretches of a text a pattern matches;
* `Marks.Carries` says that marks are carried from the starts of stretches to their ends;
* `Pattern.carries_reach` says that a pattern carries marks along the stretches that it matches, and
  `Pattern.isFullMatch_iff` what this means for a whole text;
* `Pattern.Fits` says the same of a word that stands between two texts, with rules for anchors,
  characters, sequences and repetitions of characters.
-/

namespace GovernedExpr

open Text

/-! ### Steps from place to place -/

/-- A number of steps lead from one place to another. -/
def Times (R : Nat → Nat → Prop) : Nat → Nat → Nat → Prop
  | 0, i, j => i = j
  | n + 1, i, j => ∃ k, R i k ∧ Times R n k j

section

variable {R : Nat → Nat → Prop} {n n' i j : Nat}

theorem times_add : Times R (n + n') i j ↔ ∃ k, Times R n i k ∧ Times R n' k j := by
  induction n generalizing i with
  | zero => simp [Times]
  | succ n ih =>
    rw [Nat.succ_add, Times]
    simp only [ih, Times]
    constructor
    · rintro ⟨k, step, l, first, rest⟩
      exact ⟨l, ⟨k, step, first⟩, rest⟩
    · rintro ⟨l, ⟨k, step, first⟩, rest⟩
      exact ⟨k, step, l, first, rest⟩

variable (forward : ∀ i j, R i j → i ≤ j)
include forward

theorem Times.le (h : Times R n i j) : i ≤ j := by
  induction n generalizing i with
  | zero => exact Nat.le_of_eq h
  | succ n ih =>
    obtain ⟨k, step, rest⟩ := h
    exact Nat.le_trans (forward i k step) (ih rest)

/-- If the steps are more than the places that they could move on, then one of them stays where it is,
and may be taken again. -/
theorem Times.again (h : Times R n i j) (stays : j < i + n) : Times R (n + 1) i j := by
  induction n generalizing i with
  | zero =>
    have same : i = j := h
    omega
  | succ n ih =>
    obtain ⟨k, step, rest⟩ := h
    have le := forward i k step
    by_cases same : k = i
    · subst same
      exact ⟨k, step, k, step, rest⟩
    · exact ⟨k, step, ih rest (by omega)⟩

/-- A step that stays where it is may be left out. -/
theorem Times.fewer (h : Times R (n + 1) i j) (stays : j ≤ i + n) : Times R n i j := by
  induction n generalizing i with
  | zero =>
    obtain ⟨k, step, same⟩ := h
    have le := forward i k step
    have same : k = j := same
    exact show i = j by omega
  | succ n ih =>
    obtain ⟨k, step, rest⟩ := h
    have le := forward i k step
    by_cases same : k = i
    · exact same ▸ rest
    · exact ⟨k, step, ih rest (by omega)⟩

/-- **More steps than there are places between lead nowhere else**, however many they are. -/
theorem times_iff_of_le (stays : j < i + n) (le : n ≤ n') : Times R n' i j ↔ Times R n i j := by
  obtain ⟨more, rfl⟩ := Nat.exists_eq_add_of_le le
  clear le
  induction more with
  | zero => exact Iff.rfl
  | succ more ih =>
    rw [← Nat.add_assoc]
    exact ⟨fun h => ih.1 (h.fewer forward (by omega)), fun h => (ih.2 h).again forward (by omega)⟩

/-- A repetition with a least and perhaps a greatest number of rounds, when so many rounds are too many
for the places between: there are fewer rounds to start with, and fewer to come. -/
theorem exists_times_iff {bound : Nat} (stays : j < i + bound) (least : Nat) (most : Option Nat) :
    (∃ n, least ≤ n ∧ (∀ m ∈ most, n ≤ max least m) ∧ Times R n i j) ↔
      ∃ n ≤ most.elim bound fun most => min (most - least) bound,
        Times R (min least bound + n) i j := by
  constructor
  · rintro ⟨n, above, below, h⟩
    refine ⟨min (n - least) bound, ?_, ?_⟩
    · cases most with
      | none => exact Nat.min_le_right _ _
      | some most =>
        have le := below most rfl
        rw [Option.elim_some]
        omega
    · by_cases same : min least bound + min (n - least) bound = n
      · rwa [same]
      · exact (times_iff_of_le forward (by omega) (by omega)).1 h
  · rintro ⟨n, le, h⟩
    refine ⟨least + n, Nat.le_add_right _ _, ?_, ?_⟩
    · rintro m rfl
      rw [Option.elim_some] at le
      omega
    · by_cases small : least ≤ bound
      · rwa [Nat.min_eq_left small] at h
      · exact (times_iff_of_le forward (by omega) (by omega)).2 h

end

/-! ### Stretches -/

/-- Whether a pattern matches the stretch of a text from one place to another. -/
def Pattern.Spans (text : List Char) : Pattern → Nat → Nat → Prop
  | .empty, i, j => i = j
  | .chars set, i, j => j = i + 1 ∧ ∃ c, text[i]? = some c ∧ set.has c = true
  | .assertion a, i, j => i = j ∧ ∃ p, (places text)[i]? = some p ∧ a.holds p = true
  | .sequence first second, i, j => ∃ k, first.Spans text i k ∧ second.Spans text k j
  | .either first second, i, j => first.Spans text i j ∨ second.Spans text i j
  | .repeated body least most, i, j =>
    ∃ n, least ≤ n ∧ (∀ m ∈ most, n ≤ max least m) ∧ Times (body.Spans text) n i j
  | .group _ body, i, j => body.Spans text i j

theorem Pattern.Spans.le {text : List Char} {p : Pattern} {i j : Nat} (h : p.Spans text i j) :
    i ≤ j := by
  induction p generalizing i j with
  | empty => exact Nat.le_of_eq h
  | chars set => exact h.1 ▸ Nat.le_succ i
  | assertion a => exact Nat.le_of_eq h.1
  | sequence first second first_ih second_ih =>
    obtain ⟨k, h, h'⟩ := h
    exact Nat.le_trans (first_ih h) (second_ih h')
  | either first second first_ih second_ih => exact h.elim first_ih second_ih
  | repeated body least most ih =>
    obtain ⟨n, -, -, h⟩ := h
    exact h.le fun _ _ => ih
  | group captures body ih => exact ih h

/-! ### Marks that are carried -/

namespace Marks

/-- For marks of a number of places: marked are the ends of those stretches whose starts were marked
before. -/
structure Carries (size : Nat) (step : Marks → Marks) (R : Nat → Nat → Prop) : Prop where
  length_eq : ∀ m : Marks, m.length = size → (step m).length = size
  marked_iff : ∀ m : Marks, m.length = size → ∀ j : Nat,
    (step m)[j]? = some true ↔ ∃ i : Nat, m[i]? = some true ∧ R i j

variable {size : Nat} {step step' : Marks → Marks} {R S : Nat → Nat → Prop} {text : List Char}
  {m k : Marks}

theorem getElem?_join (same : m.length = k.length) (j : Nat) :
    (m.join k)[j]? = some true ↔ m[j]? = some true ∨ k[j]? = some true := by
  rw [join, List.getElem?_zipWith]
  obtain inside | outside := Nat.lt_or_ge j m.length
  · rw [List.getElem?_eq_getElem inside, List.getElem?_eq_getElem (same ▸ inside)]
    simp
  · rw [List.getElem?_eq_none outside, List.getElem?_eq_none (same ▸ outside)]
    simp

theorem any_eq_true_iff : m.any id = true ↔ ∃ i : Nat, m[i]? = some true := by
  simp [List.any_eq_true, List.mem_iff_getElem?]

theorem carries_id : Carries size id Eq where
  length_eq _ h := h
  marked_iff m _ j := by simp

theorem Carries.comp (h : Carries size step R) (h' : Carries size step' S) :
    Carries size (fun m => step' (step m)) fun i j => ∃ k, R i k ∧ S k j where
  length_eq m hm := h'.length_eq _ (h.length_eq m hm)
  marked_iff m hm j := by
    rw [h'.marked_iff _ (h.length_eq m hm)]
    simp only [h.marked_iff m hm]
    constructor
    · rintro ⟨k, ⟨i, hi, first⟩, second⟩
      exact ⟨i, hi, k, first, second⟩
    · rintro ⟨i, hi, k, first, second⟩
      exact ⟨k, ⟨i, hi, first⟩, second⟩

theorem Carries.join (h : Carries size step R) (h' : Carries size step' S) :
    Carries size (fun m => (step m).join (step' m)) fun i j => R i j ∨ S i j where
  length_eq m hm := by
    rw [Marks.join, List.length_zipWith, h.length_eq m hm, h'.length_eq m hm, Nat.min_self]
  marked_iff m hm j := by
    rw [getElem?_join ((h.length_eq m hm).trans (h'.length_eq m hm).symm), h.marked_iff m hm,
      h'.marked_iff m hm, ← exists_or]
    simp only [and_or_left]

/-- Stretches that start at a place of the text end at one. -/
theorem Carries.lt (h : Carries size step R) {i j : Nat} (hi : i < size) (hij : R i j) : j < size := by
  have all : (List.replicate size true).length = size := List.length_replicate
  have marked := (h.marked_iff _ all j).2 ⟨i, by rw [List.getElem?_replicate, if_pos hi], hij⟩
  obtain ⟨inside, -⟩ := List.getElem?_eq_some_iff.1 marked
  rwa [h.length_eq _ all] at inside

/-- Only what starts and ends at places of the text matters. -/
theorem Carries.congr (h : Carries size step R) (lt : ∀ i j, i < size → S i j → j < size)
    (same : ∀ i j, i < size → j < size → (R i j ↔ S i j)) : Carries size step S where
  length_eq := h.length_eq
  marked_iff m hm j := by
    rw [h.marked_iff m hm]
    refine exists_congr fun i => and_congr_right fun hi => ?_
    obtain ⟨inside, -⟩ := List.getElem?_eq_some_iff.1 hi
    rw [hm] at inside
    exact ⟨fun r => (same i j inside (h.lt inside r)).1 r,
      fun s => (same i j inside (lt i j inside s)).2 s⟩

theorem carries_advance (set : CodeSet) (text : List Char) :
    Carries (text.length + 1) (advance set text)
      fun i j => j = i + 1 ∧ ∃ c, text[i]? = some c ∧ set.has c = true where
  length_eq m hm := by
    rw [advance, List.length_cons, List.length_zipWith, hm]
    omega
  marked_iff m _ j := by
    rw [advance]
    cases j with
    | zero => simp
    | succ j =>
      rw [List.getElem?_cons_succ, List.getElem?_zipWith_eq_some]
      constructor
      · rintro ⟨c, marked, hc, hmarked, both⟩
        obtain ⟨rfl, member⟩ := Bool.and_eq_true_iff.1 both
        exact ⟨j, hmarked, rfl, c, hc, member⟩
      · rintro ⟨i, hi, next, c, hc, member⟩
        obtain rfl : j = i := by omega
        exact ⟨c, true, hc, hi, member⟩

theorem carries_keep (a : Assertion) (text : List Char) :
    Carries (text.length + 1) (keep a text)
      fun i j => i = j ∧ ∃ p, (places text)[i]? = some p ∧ a.holds p = true where
  length_eq m hm := by
    rw [keep, List.length_zipWith, places, length_placesAfter, hm, Nat.min_self]
  marked_iff m _ j := by
    rw [keep, List.getElem?_zipWith_eq_some]
    constructor
    · rintro ⟨p, marked, hp, hmarked, both⟩
      obtain ⟨rfl, holds⟩ := Bool.and_eq_true_iff.1 both
      exact ⟨j, hmarked, rfl, p, hp, holds⟩
    · rintro ⟨i, hi, rfl, p, hp, holds⟩
      exact ⟨p, true, hp, hi, holds⟩

theorem Carries.iterate (h : Carries size step R) (n : Nat) :
    Carries size (Marks.iterate step n) (Times R n) := by
  induction n with
  | zero => exact carries_id
  | succ n ih =>
    have next := h.comp ih
    constructor
    · intro m hm
      rw [Marks.iterate]
      split
      · exact next.length_eq m hm
      · exact hm
    · intro m hm j
      rw [Marks.iterate]
      split
      · exact next.marked_iff m hm j
      next unmarked =>
        -- without marks there is none to be carried
        rw [any_eq_true_iff] at unmarked
        exact ⟨fun hj => absurd ⟨j, hj⟩ unmarked, fun ⟨i, hi, _⟩ => absurd ⟨i, hi⟩ unmarked⟩

theorem Carries.saturate (h : Carries size step R) (n : Nat) :
    Carries size (Marks.saturate step n) fun i j => ∃ k ≤ n, Times R k i j := by
  induction n with
  | zero =>
    refine ⟨fun _ hm => hm, fun m hm j => ?_⟩
    simp [Marks.saturate, Times]
  | succ n ih =>
    have grow := carries_id.join h
    constructor
    · intro m hm
      rw [Marks.saturate]
      split
      · exact hm
      · exact ih.length_eq _ (grow.length_eq m hm)
    · intro m hm j
      rw [Marks.saturate]
      split
      next closed =>
        -- no further step leads out of the marks
        have stays (i j : Nat) (hi : m[i]? = some true) (hij : R i j) : m[j]? = some true := by
          rw [← closed]
          exact (grow.marked_iff m hm j).2 ⟨i, hi, .inr hij⟩
        have reached (k i : Nat) (hi : m[i]? = some true) (hij : Times R k i j) :
            m[j]? = some true := by
          induction k generalizing i with
          | zero => exact hij ▸ hi
          | succ k ih =>
            obtain ⟨l, first, rest⟩ := hij
            exact ih l (stays i l hi first) rest
        exact ⟨fun hj => ⟨j, hj, 0, Nat.zero_le _, rfl⟩, fun ⟨i, hi, k, _, hij⟩ => reached k i hi hij⟩
      · refine (ih.marked_iff _ (grow.length_eq m hm) j).trans ⟨?_, ?_⟩
        · rintro ⟨l, hl, k, le, rest⟩
          obtain ⟨i, hi, rfl | first⟩ := (grow.marked_iff m hm l).1 hl
          · exact ⟨_, hi, k, Nat.le_succ_of_le le, rest⟩
          · exact ⟨i, hi, k + 1, Nat.succ_le_succ le, l, first, rest⟩
        · rintro ⟨i, hi, k, le, hij⟩
          cases k with
          | zero => exact ⟨i, (grow.marked_iff m hm i).2 ⟨i, hi, .inl rfl⟩, 0, Nat.zero_le n, hij⟩
          | succ k =>
            obtain ⟨l, first, rest⟩ := hij
            exact ⟨l, (grow.marked_iff m hm l).2 ⟨i, hi, .inr first⟩, k, Nat.le_of_succ_le_succ le,
              rest⟩

end Marks

namespace Pattern

theorem reach_repeated (body : Pattern) (least : Nat) (most : Option Nat) (text : List Char)
    (m : Marks) : (repeated body least most).reach text m =
      Marks.saturate (body.reach text)
        (most.elim (text.length + 1) fun most => min (most - least) (text.length + 1))
        (Marks.iterate (body.reach text) (min least (text.length + 1)) m) := by
  cases most <;> rfl

/-- **A pattern carries marks along the stretches that it matches**, and the limits of a repetition keep
it from none of them. -/
theorem carries_reach (p : Pattern) (text : List Char) :
    Marks.Carries (text.length + 1) (p.reach text) (p.Spans text) := by
  induction p with
  | empty => exact Marks.carries_id
  | chars set => exact Marks.carries_advance set text
  | assertion a => exact Marks.carries_keep a text
  | sequence first second first_ih second_ih => exact first_ih.comp second_ih
  | either first second first_ih second_ih => exact first_ih.join second_ih
  | repeated body least most ih =>
    have rounds := (ih.iterate (min least (text.length + 1))).comp
      (ih.saturate (most.elim (text.length + 1) fun most => min (most - least) (text.length + 1)))
    rw [show (repeated body least most).reach text = _ from
      funext (reach_repeated body least most text)]
    refine rounds.congr ?_ fun i j hi hj => ?_
    · rintro i j hi ⟨n, -, -, hij⟩
      exact (ih.iterate n).lt hi hij
    · rw [Spans, exists_times_iff (fun _ _ => Spans.le) (Nat.lt_add_left i hj)]
      simp only [times_add]
      constructor
      · rintro ⟨l, first, n, le, rest⟩
        exact ⟨n, le, l, first, rest⟩
      · rintro ⟨n, le, l, first, rest⟩
        exact ⟨l, first, n, le, rest⟩
  | group captures body ih => exact ih

/-- **A pattern matches a text as a whole if it matches the stretch from its start to its end.** -/
theorem isFullMatch_iff (p : Pattern) (text : List Char) :
    p.isFullMatch text = true ↔ p.Spans text 0 text.length := by
  have one : (Marks.atStart text).length = text.length + 1 := by simp [Marks.atStart]
  rw [isFullMatch, beq_iff_eq, (carries_reach p text).marked_iff _ one]
  simp only [Marks.getElem?_atStart, exists_eq_left]

/-! ### Words that a pattern fits -/

/-- Whether a pattern matches a word that stands between two texts. -/
def Fits (p : Pattern) (before word after : List Char) : Prop :=
  p.Spans (before ++ word ++ after) before.length (before.length + word.length)

theorem isFullMatch_iff_fits (p : Pattern) (text : List Char) :
    p.isFullMatch text = true ↔ p.Fits [] text [] := by
  rw [isFullMatch_iff, Fits, List.nil_append, List.append_nil, List.length_nil, Nat.zero_add]

variable {first second body : Pattern} {set : CodeSet} {before word after : List Char} {least : Nat}

/-- A place of a text, by the texts before it and behind it. -/
theorem getElem?_placesAfter (outer : Option Char) (before after : List Char) :
    (placesAfter outer (before ++ after))[before.length]? =
      some ⟨before.getLast?.or outer, after.head?⟩ := by
  induction before generalizing outer with
  | nil => cases after <;> rfl
  | cons c before ih =>
    rw [List.cons_append, placesAfter, List.length_cons, List.getElem?_cons_succ, ih,
      List.getLast?_cons, Option.some_or]
    cases before.getLast? <;> rfl

theorem fits_assertion {a : Assertion} : (assertion a).Fits before word after ↔
    word = [] ∧ a.holds ⟨before.getLast?, after.head?⟩ = true := by
  rw [Fits, Spans, Nat.left_eq_add, List.length_eq_zero_iff]
  refine and_congr_right ?_
  rintro rfl
  rw [List.append_nil, places, getElem?_placesAfter, Option.or_none]
  simp

@[simp] theorem fits_textStart :
    (assertion .textStart).Fits before word after ↔ word = [] ∧ before = [] := by
  simp [fits_assertion, Assertion.holds]

@[simp] theorem fits_textEnd :
    (assertion .textEnd).Fits before word after ↔ word = [] ∧ after = [] := by
  simp [fits_assertion, Assertion.holds]

@[simp] theorem fits_chars :
    (chars set).Fits before word after ↔ ∃ c, word = [c] ∧ set.has c = true := by
  rw [Fits, Spans, Nat.add_left_cancel_iff, List.length_eq_one_iff]
  constructor
  · rintro ⟨⟨c, rfl⟩, d, hd, member⟩
    obtain rfl : c = d := by simpa using hd
    exact ⟨c, rfl, member⟩
  · rintro ⟨c, rfl, member⟩
    exact ⟨⟨c, rfl⟩, c, by simp, member⟩

@[simp] theorem fits_group {captures : Bool} :
    (group captures body).Fits before word after ↔ body.Fits before word after :=
  Iff.rfl

/-- A word for two patterns one after the other is put together of a word for each. -/
@[simp] theorem fits_sequence : (sequence first second).Fits before word after ↔
    ∃ u v, word = u ++ v ∧ first.Fits before u (v ++ after) ∧ second.Fits (before ++ u) v after := by
  have whole (u v : List Char) : before ++ u ++ (v ++ after) = before ++ (u ++ v) ++ after := by simp
  have rest (u v : List Char) : before ++ u ++ v ++ after = before ++ (u ++ v) ++ after := by simp
  rw [Fits, Spans]
  constructor
  · rintro ⟨k, h, h'⟩
    have le := h.le
    have le' := h'.le
    obtain ⟨n, rfl⟩ := Nat.exists_eq_add_of_le le
    have cut : word.take n ++ word.drop n = word := List.take_append_drop n word
    have length : (word.take n).length = n := by
      rw [List.length_take]
      omega
    refine ⟨word.take n, word.drop n, cut.symm, ?_, ?_⟩
    · rwa [Fits, whole, cut, length]
    · rwa [Fits, rest, cut, List.length_append, length, List.length_drop,
        show before.length + n + (word.length - n) = before.length + word.length by omega]
  · rintro ⟨u, v, rfl, h, h'⟩
    rw [Fits, whole] at h
    rw [Fits, rest, List.length_append] at h'
    rw [List.length_append, ← Nat.add_assoc]
    exact ⟨_, h, h'⟩

/-- So many characters of a set are a word of that length. -/
theorem times_chars {n : Nat} : Times ((chars set).Spans (before ++ word ++ after)) n before.length
    (before.length + word.length) ↔ word.length = n ∧ ∀ c ∈ word, set.has c = true := by
  induction n generalizing before word with
  | zero =>
    rw [Times, Nat.left_eq_add, List.length_eq_zero_iff]
    refine (and_iff_left_of_imp ?_).symm
    rintro rfl
    simp
  | succ n ih =>
    cases word with
    | nil =>
      refine iff_of_false ?_ (by simp)
      rintro ⟨_, ⟨rfl, -⟩, rest⟩
      exact Nat.not_succ_le_self _ (rest.le fun _ _ => Spans.le)
    | cons c word =>
      have next := @ih (before ++ [c]) word
      rw [List.append_assoc before, List.singleton_append, List.length_append, List.length_singleton,
        Nat.add_assoc, Nat.add_comm 1] at next
      constructor
      · rintro ⟨_, ⟨rfl, d, hd, member⟩, rest⟩
        obtain rfl : c = d := by simpa using hd
        obtain ⟨length, members⟩ := next.1 rest
        exact ⟨congrArg Nat.succ length, List.forall_mem_cons.2 ⟨member, members⟩⟩
      · rintro ⟨length, members⟩
        obtain ⟨member, members⟩ := List.forall_mem_cons.1 members
        exact ⟨_, ⟨rfl, c, by simp, member⟩, next.2 ⟨Nat.succ.inj length, members⟩⟩

@[simp] theorem fits_repeated_chars : (repeated (chars set) least none).Fits before word after ↔
    least ≤ word.length ∧ ∀ c ∈ word, set.has c = true := by
  rw [Fits, Spans]
  simp only [times_chars]
  constructor
  · rintro ⟨n, above, -, rfl, members⟩
    exact ⟨above, members⟩
  · rintro ⟨above, members⟩
    exact ⟨word.length, above, nofun, rfl, members⟩

@[simp] theorem fits_optional : (repeated body 0 (some 1)).Fits before word after ↔
    word = [] ∨ body.Fits before word after := by
  rw [Fits, Spans]
  constructor
  · rintro ⟨n, -, below, h⟩
    match n, below 1 rfl with
    | 0, _ => exact .inl (by simpa [Times] using h)
    | 1, _ =>
      obtain ⟨_, h, rfl⟩ := h
      exact .inr h
  · rintro (rfl | h)
    · exact ⟨0, Nat.le_refl 0, by simp, rfl⟩
    · exact ⟨1, Nat.zero_le 1, by simp, _, h, rfl⟩

end Pattern

end GovernedExpr
