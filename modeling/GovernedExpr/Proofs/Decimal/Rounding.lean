import GovernedExpr.Decimal.Binary64
import Mathlib.Algebra.Order.Field.Power
import Mathlib.Algebra.Order.Ring.Rat
import Mathlib.Tactic.GCongr
import Mathlib.Tactic.Linarith
import Mathlib.Tactic.NormNum
import Mathlib.Tactic.Positivity
import Mathlib.Tactic.Ring

/-!
# Rounding to binary floating point

A positive ratio is rounded to a value of the format, and every ratio between the two ends of the interval
around a value is rounded to that value.

* `Binary64.IsCanonical` says that mantissa and exponent are those of the format;
* `Binary64.IsNear` says that a ratio lies between the ends of the interval around a value;
* `Binary64.exponentOf_eq` and `Binary64.roundQuotient_eq_iff` say what the parts of rounding do;
* `Binary64.isCanonical_of_ofDecimal?` and `Binary64.ofDecimal?_of_isNear` say what a decimal is rounded to.
-/

namespace GovernedExpr.Binary64

variable {x : Binary64} {r : ℚ} {num den m : Nat} {e : Int} {negative : Bool}

/-- Mantissa and exponent are within their bounds, and the mantissa has 53 bits unless the exponent is the
least one. -/
structure IsCanonical (x : Binary64) : Prop where
  mantissa_lt : x.mantissa < 2 ^ 53
  least_le : leastExponent ≤ x.exponent
  le_greatest : x.exponent ≤ greatestExponent
  normal : 2 ^ 52 ≤ x.mantissa ∨ x.exponent = leastExponent

theorem isCanonical_zero : (zero negative).IsCanonical where
  mantissa_lt := by simp [zero]
  least_le := le_refl _
  le_greatest := by simp [zero, leastExponent, greatestExponent]
  normal := .inr rfl

/-! ### Rounding to integers -/

/-- A ratio lies between two bounds; it may be one of them only if the number is even. -/
def Within (m : Nat) (low high r : ℚ) : Prop :=
  if m % 2 = 0 then low ≤ r ∧ r ≤ high else low < r ∧ r < high

section Within

variable {low high low' high' : ℚ}

theorem Within.le (h : Within m low high r) : low ≤ r ∧ r ≤ high := by
  unfold Within at h
  split at h
  · exact h
  · exact ⟨h.1.le, h.2.le⟩

theorem within_of_lt (above : low < r) (below : r < high) : Within m low high r := by
  unfold Within
  split
  · exact ⟨above.le, below.le⟩
  · exact ⟨above, below⟩

theorem Within.mono (h : Within m low high r) (below : low' ≤ low) (above : high ≤ high') :
    Within m low' high' r := by
  unfold Within at *
  split at h
  · next even => simpa only [even, if_true] using ⟨below.trans h.1, h.2.trans above⟩
  · next odd => simpa only [odd, if_false] using ⟨below.trans_lt h.1, h.2.trans_le above⟩

theorem within_div_iff {c : ℚ} (hc : 0 < c) :
    Within m low high (r / c) ↔ Within m (low * c) (high * c) r := by
  unfold Within
  simp only [le_div_iff₀ hc, div_le_iff₀ hc, lt_div_iff₀ hc, div_lt_iff₀ hc]

/-- Half a unit around an integer. -/
theorem Within.eq {m' : Nat} (h : Within m (m - 1 / 2) (m + 1 / 2) r)
    (h' : Within m' (m' - 1 / 2) (m' + 1 / 2) r) : m = m' := by
  wlog less : m < m' generalizing m m'
  · obtain rfl | greater := (not_lt.1 less).eq_or_lt
    · rfl
    · exact (this h' h greater).symm
  have next : (m : ℚ) + 1 ≤ m' := by exact_mod_cast less
  -- the two are neighbours, and the ratio is between them: it is near to one only, the even one
  have tie : r = m + 1 / 2 := le_antisymm h.le.2 (by linarith [h'.le.1])
  have neighbours : m' = m + 1 := by
    have : (m' : ℚ) ≤ m + 1 := by linarith [h'.le.1]
    exact le_antisymm (by exact_mod_cast this) less
  have even : m % 2 = 0 := by
    by_contra odd
    rw [Within, if_neg odd] at h
    exact absurd tie h.2.ne
  have even' : m' % 2 = 0 := by
    by_contra odd
    rw [Within, if_neg odd] at h'
    linarith [h'.1]
  omega

end Within

/-- The nearest integer to a quotient is half a unit away at most. -/
theorem within_roundQuotient (hden : 0 < den) :
    Within (roundQuotient num den) (roundQuotient num den - 1 / 2) (roundQuotient num den + 1 / 2)
      (num / den : ℚ) := by
  have positive : (0 : ℚ) < den := by exact_mod_cast hden
  obtain ⟨q, hq⟩ : ∃ q, num / den = q := ⟨_, rfl⟩
  obtain ⟨rest, hrest⟩ : ∃ rest, num % den = rest := ⟨_, rfl⟩
  have small : rest < den := hrest ▸ Nat.mod_lt num hden
  have whole : (num / den : ℚ) = q + rest / den := by
    rw [div_eq_iff positive.ne', add_mul, div_mul_cancel₀ _ positive.ne', ← hq, ← hrest]
    exact_mod_cast (Nat.div_add_mod' num den).symm
  have below : (rest / den : ℚ) < 1 := (div_lt_one positive).2 (by exact_mod_cast small)
  have above : (0 : ℚ) ≤ rest / den := by positivity
  unfold roundQuotient
  simp only [hq, hrest, whole]
  split
  · next down =>
    have : (rest / den : ℚ) < 1 / 2 := by
      rw [div_lt_div_iff₀ positive two_pos]
      exact_mod_cast (by omega : rest * 2 < 1 * den)
    exact within_of_lt (by linarith) (by linarith)
  · split
    · next up =>
      have : (1 / 2 : ℚ) < rest / den := by
        rw [div_lt_div_iff₀ two_pos positive]
        exact_mod_cast (by omega : 1 * den < rest * 2)
      push_cast
      exact within_of_lt (by linarith) (by linarith)
    · -- a tie
      have tie : (rest / den : ℚ) = 1 / 2 := by
        rw [div_eq_div_iff positive.ne' two_ne_zero]
        exact_mod_cast (by omega : rest * 2 = 1 * den)
      rw [tie, Within, if_pos (by omega)]
      obtain even | odd := Nat.mod_two_eq_zero_or_one q
      · rw [even]
        push_cast
        constructor <;> linarith
      · rw [odd]
        push_cast
        constructor <;> linarith

theorem roundQuotient_eq_iff (hden : 0 < den) :
    roundQuotient num den = m ↔ Within m (m - 1 / 2) (m + 1 / 2) (num / den : ℚ) :=
  ⟨fun h => h ▸ within_roundQuotient hden, fun h => (within_roundQuotient hden).eq h⟩

/-! ### Exponents -/

theorem scale_pos (hden : 0 < den) : 0 < (scale num den e).2 := by
  unfold scale
  split
  · exact Nat.mul_pos hden (Nat.pow_pos two_pos)
  · exact hden

/-- Scaling divides a ratio by a power of two. -/
theorem scale_eq (num den : Nat) (e : Int) :
    ((scale num den e).1 / (scale num den e).2 : ℚ) = num / den / 2 ^ e := by
  unfold scale
  split
  · next nonneg =>
    obtain ⟨n, rfl⟩ := Int.eq_ofNat_of_zero_le nonneg
    simp [div_div]
  · next negative =>
    obtain ⟨n, rfl⟩ : ∃ n : Nat, e = -(n : Int) := ⟨e.natAbs, by omega⟩
    simp [div_mul_eq_mul_div]

/-- A ratio lies between the powers of two that the logarithms of its parts name. -/
theorem ratio_bounds (hnum : 0 < num) (hden : 0 < den) :
    (2 : ℚ) ^ (num.log2 - den.log2 - 1 : Int) ≤ num / den ∧
      (num / den : ℚ) < 2 ^ (num.log2 - den.log2 + 1 : Int) := by
  have bounds {n : Nat} (h : 0 < n) : (2 : ℚ) ^ (n.log2 : Int) ≤ n ∧ (n : ℚ) < 2 ^ (n.log2 + 1 : Int) := by
    constructor
    · rw [zpow_natCast]
      exact_mod_cast Nat.log2_self_le h.ne'
    · rw [← Nat.cast_succ, zpow_natCast]
      exact_mod_cast Nat.lt_log2_self
  have positive : (0 : ℚ) < den := by exact_mod_cast hden
  rw [le_div_iff₀ positive, div_lt_iff₀ positive]
  constructor
  · calc (2 : ℚ) ^ (num.log2 - den.log2 - 1 : Int) * den
      _ ≤ 2 ^ (num.log2 - den.log2 - 1 : Int) * 2 ^ (den.log2 + 1 : Int) :=
        mul_le_mul_of_nonneg_left (bounds hden).2.le (zpow_pos two_pos _).le
      _ = 2 ^ (num.log2 : Int) := by rw [← zpow_add₀ two_ne_zero]; congr 1; ring
      _ ≤ num := (bounds hnum).1
  · calc (num : ℚ)
      _ < 2 ^ (num.log2 + 1 : Int) := (bounds hnum).2
      _ = 2 ^ (num.log2 - den.log2 + 1 : Int) * 2 ^ (den.log2 : Int) := by
        rw [← zpow_add₀ two_ne_zero]; congr 1; ring
      _ ≤ 2 ^ (num.log2 - den.log2 + 1 : Int) * den :=
        mul_le_mul_of_nonneg_left (bounds hden).1 (zpow_pos two_pos _).le

/-- The mantissa of a ratio has 53 bits at the exponent of the ratio, unless that is the least one. -/
theorem exponentOf_spec (hnum : 0 < num) (hden : 0 < den) :
    leastExponent ≤ exponentOf num den ∧ (num / den : ℚ) < 2 ^ (exponentOf num den + 53) ∧
      (exponentOf num den = leastExponent ∨ 2 ^ (exponentOf num den + 52) ≤ (num / den : ℚ)) := by
  obtain ⟨above, below⟩ := ratio_bounds hnum hden
  unfold exponentOf
  obtain ⟨estimate, hestimate⟩ : ∃ estimate : Int, (num.log2 : Int) - den.log2 - 52 = estimate := ⟨_, rfl⟩
  have short : (scale num den estimate).1 < (scale num den estimate).2 * Nat.pow 2 52 ↔
      (num / den : ℚ) < 2 ^ (estimate + 52) := by
    have positive : (0 : ℚ) < (scale num den estimate).2 := by exact_mod_cast scale_pos hden
    rw [zpow_add₀ two_ne_zero, ← div_lt_iff₀' (zpow_pos two_pos _), ← scale_eq, div_lt_iff₀' positive]
    norm_cast
  simp only [hestimate, short]
  -- the estimate is right or one too great
  obtain ⟨exact, hexact⟩ : ∃ exact : Int,
      (if (num / den : ℚ) < 2 ^ (estimate + 52) then estimate - 1 else estimate) = exact := ⟨_, rfl⟩
  have bounds : (num / den : ℚ) < 2 ^ (exact + 53) ∧ 2 ^ (exact + 52) ≤ (num / den : ℚ) := by
    split at hexact
    · next small =>
      subst hexact
      refine ⟨small.trans_eq ?_, Eq.trans_le ?_ above⟩ <;> congr 1 <;> omega
    · next large =>
      subst hexact
      exact ⟨below.trans_eq (by congr 1; omega), not_lt.1 large⟩
  rw [hexact]
  refine ⟨le_max_left _ _, ?_, ?_⟩
  · exact bounds.1.trans_le (zpow_le_zpow_right₀ one_le_two (by omega))
  · obtain small | large := le_total exact leastExponent
    · exact .inl (max_eq_left small)
    · rw [max_eq_right large]
      exact .inr bounds.2

/-- There is no other exponent at which the mantissa of a ratio has 53 bits. -/
theorem exponentOf_eq (hnum : 0 < num) (hden : 0 < den) (least : leastExponent ≤ e)
    (below : (num / den : ℚ) < 2 ^ (e + 53)) (above : e = leastExponent ∨ 2 ^ (e + 52) ≤ (num / den : ℚ)) :
    exponentOf num den = e := by
  obtain ⟨least', below', above'⟩ := exponentOf_spec hnum hden
  apply le_antisymm
  · obtain h | h := above'
    · exact h.trans_le least
    · have := (zpow_lt_zpow_iff_right₀ one_lt_two).1 (h.trans_lt below)
      omega
  · obtain h | h := above
    · exact h.trans_le least'
    · have := (zpow_lt_zpow_iff_right₀ one_lt_two).1 (h.trans_lt below')
      omega

/-! ### Rounding ratios -/

theorem ofMantissa?_of_lt (small : m < 2 ^ 53) (bounded : e ≤ greatestExponent) :
    ofMantissa? negative m e = some ⟨negative, m, e⟩ := by
  rw [ofMantissa?, if_neg (by rw [Nat.pow_eq]; exact small.ne), if_pos bounded]

theorem ofMantissa?_carry (bounded : e + 1 ≤ greatestExponent) :
    ofMantissa? negative (2 ^ 53) e = some ⟨negative, 2 ^ 52, e + 1⟩ := by
  rw [ofMantissa?, if_pos (by rw [Nat.pow_eq]), if_pos bounded, Nat.pow_eq]

theorem isCanonical_of_ofMantissa? (small : m ≤ 2 ^ 53) (least : leastExponent ≤ e)
    (normal : 2 ^ 52 ≤ m ∨ e = leastExponent) (h : ofMantissa? negative m e = some x) : x.IsCanonical := by
  unfold ofMantissa? at h
  rw [Nat.pow_eq, Nat.pow_eq] at h
  split at h
  · obtain ⟨bounded, h⟩ := Option.ite_none_right_eq_some.1 h
    cases h
    exact ⟨by norm_num, by dsimp only; omega, bounded, .inl (le_refl _)⟩
  · next fits =>
    obtain ⟨bounded, h⟩ := Option.ite_none_right_eq_some.1 h
    cases h
    exact ⟨lt_of_le_of_ne small fits, least, bounded, normal⟩

/-- The mantissa of a ratio is half a unit away at most. -/
theorem roundQuotient_scale_eq_iff (hden : 0 < den) :
    roundQuotient (scale num den e).1 (scale num den e).2 = m ↔
      Within m ((m - 1 / 2) * 2 ^ e) ((m + 1 / 2) * 2 ^ e) (num / den : ℚ) := by
  rw [roundQuotient_eq_iff (scale_pos hden), scale_eq, within_div_iff (zpow_pos two_pos e)]

theorem isCanonical_of_ofRatio? (hnum : 0 < num) (hden : 0 < den) (h : ofRatio? negative num den = some x) :
    x.IsCanonical := by
  obtain ⟨least, below, above⟩ := exponentOf_spec hnum hden
  obtain ⟨e, he⟩ : ∃ e, exponentOf num den = e := ⟨_, rfl⟩
  obtain ⟨m, hm⟩ : ∃ m, roundQuotient (scale num den e).1 (scale num den e).2 = m := ⟨_, rfl⟩
  have near := ((roundQuotient_scale_eq_iff hden).1 hm).le
  simp only [ofRatio?, he, hm] at h
  rw [he] at least below above
  rw [zpow_add₀ two_ne_zero] at below above
  refine isCanonical_of_ofMantissa? ?_ least ?_ h
  · have : (m - 1 / 2 : ℚ) < 2 ^ (53 : Int) :=
      lt_of_mul_lt_mul_left (by linarith) (zpow_pos two_pos e).le
    rw [zpow_ofNat] at this
    have : (m : ℚ) < 2 ^ 53 + 1 := by linarith
    exact Nat.lt_succ_iff.1 (by exact_mod_cast this)
  · refine above.symm.imp_left fun above => ?_
    have : (2 : ℚ) ^ (52 : Int) ≤ m + 1 / 2 :=
      le_of_mul_le_mul_left (by linarith) (zpow_pos two_pos e)
    rw [zpow_ofNat] at this
    have : (2 : ℚ) ^ 52 < m + 1 := by linarith
    exact Nat.lt_succ_iff.1 (by exact_mod_cast this)

/-- A ratio lies in the interval around a value. -/
def IsNear (x : Binary64) (r : ℚ) : Prop :=
  Within x.mantissa (x.ends.1 * 2 ^ (x.exponent - 2)) (x.ends.2 * 2 ^ (x.exponent - 2)) r

/-- How far below a value the interval around it begins: half a unit, or a quarter if the values below have a
lower exponent. -/
def halfGap (x : Binary64) : ℚ :=
  if x.mantissa = 2 ^ 52 ∧ x.exponent ≠ leastExponent then 1 / 4 else 1 / 2

theorem isNear_iff (positive : 0 < x.mantissa) : x.IsNear r ↔
    Within x.mantissa ((x.mantissa - x.halfGap) * 2 ^ x.exponent) ((x.mantissa + 1 / 2) * 2 ^ x.exponent) r := by
  have quarter : (2 : ℚ) ^ x.exponent = 4 * 2 ^ (x.exponent - 2) := by
    rw [show x.exponent = x.exponent - 2 + 2 by ring, zpow_add₀ two_ne_zero, zpow_ofNat]
    ring_nf
  have low : (x.ends.1 : ℚ) = (x.mantissa - x.halfGap) * 4 := by
    unfold ends halfGap
    rw [Nat.pow_eq]
    dsimp only
    split
    · rw [Nat.cast_sub (by omega)]
      push_cast
      ring
    · rw [Nat.cast_sub (by omega)]
      push_cast
      ring
  have high : (x.ends.2 : ℚ) = (x.mantissa + 1 / 2) * 4 := by
    unfold ends
    push_cast
    ring
  rw [IsNear, quarter, low, high, mul_assoc, mul_assoc]

theorem halfGap_le : x.halfGap ≤ 1 / 2 := by
  unfold halfGap
  split <;> norm_num

/-- A ratio whose mantissa has 53 bits at an exponent, or that has the least exponent. -/
theorem ofRatio?_of_within (hnum : 0 < num) (hden : 0 < den) (small : m < 2 ^ 53)
    (least : leastExponent ≤ e) (bounded : e ≤ greatestExponent)
    (above : e = leastExponent ∨ 2 ^ (e + 52) ≤ (num / den : ℚ))
    (near : Within m ((m - 1 / 2) * 2 ^ e) ((m + 1 / 2) * 2 ^ e) (num / den : ℚ)) :
    ofRatio? negative num den = some ⟨negative, m, e⟩ := by
  have below : (num / den : ℚ) < 2 ^ (e + 53) := by
    have : (m : ℚ) + 1 ≤ 2 ^ 53 := by exact_mod_cast small
    rw [zpow_add₀ two_ne_zero, zpow_ofNat, mul_comm]
    exact near.le.2.trans_lt ((mul_lt_mul_iff_left₀ (zpow_pos two_pos e)).2 (by linarith))
  rw [ofRatio?, exponentOf_eq hnum hden least below above, (roundQuotient_scale_eq_iff hden).2 near,
    ofMantissa?_of_lt small bounded]

/-- A ratio just below a power of two, whose mantissa is rounded to one too great for 53 bits. -/
theorem ofRatio?_carry (hnum : 0 < num) (hden : 0 < den) (least : leastExponent < e)
    (bounded : e ≤ greatestExponent) (above : ((2 ^ 52 - 1 / 4) * 2 ^ e : ℚ) ≤ num / den)
    (below : (num / den : ℚ) < 2 ^ 52 * 2 ^ e) :
    ofRatio? negative num den = some ⟨negative, 2 ^ 52, e⟩ := by
  have unit : (0 : ℚ) < 2 ^ (e - 1) := zpow_pos two_pos _
  have double : (2 : ℚ) ^ e = 2 * 2 ^ (e - 1) := by
    rw [← zpow_one_add₀ two_ne_zero, add_sub_cancel]
  have exponent : exponentOf num den = e - 1 := by
    refine exponentOf_eq hnum hden (by omega) ?_ (.inr ?_)
    · rw [zpow_add₀ two_ne_zero, zpow_ofNat]
      linarith
    · rw [zpow_add₀ two_ne_zero, zpow_ofNat]
      linarith
  have near : Within (2 ^ 53) (((2 ^ 53 : Nat) - 1 / 2) * 2 ^ (e - 1)) (((2 ^ 53 : Nat) + 1 / 2) * 2 ^ (e - 1))
      (num / den : ℚ) := by
    rw [Within, if_pos (by norm_num)]
    push_cast
    constructor <;> linarith
  rw [ofRatio?, exponent, (roundQuotient_scale_eq_iff hden).2 near, ofMantissa?_carry (by omega),
    Int.sub_add_cancel]

/-- **A ratio in the interval around a value is rounded to that value.** -/
theorem ofRatio?_of_isNear (hx : x.IsCanonical) (positive : 0 < x.mantissa) (hnum : 0 < num) (hden : 0 < den)
    (h : x.IsNear (num / den)) : ofRatio? x.negative num den = some x := by
  rw [isNear_iff positive] at h
  have unit : (0 : ℚ) < 2 ^ x.exponent := zpow_pos two_pos _
  by_cases above : x.exponent = leastExponent ∨ 2 ^ (x.exponent + 52) ≤ (num / den : ℚ)
  · exact ofRatio?_of_within hnum hden hx.mantissa_lt hx.least_le hx.le_greatest above
      (h.mono (by gcongr; exact halfGap_le) (le_refl _))
  · -- the ratio is below the least value with the exponent
    obtain ⟨greater, below⟩ := not_or.1 above
    rw [not_le, zpow_add₀ two_ne_zero, zpow_ofNat, mul_comm] at below
    have mantissa : x.mantissa = 2 ^ 52 := by
      have : (x.mantissa : ℚ) - x.halfGap < 2 ^ 52 :=
        lt_of_mul_lt_mul_right (h.le.1.trans_lt below) unit.le
      have : (x.mantissa : ℚ) < 2 ^ 52 + 1 := by linarith [x.halfGap_le]
      exact le_antisymm (Nat.lt_succ_iff.1 (by exact_mod_cast this)) (hx.normal.resolve_right greater)
    have lower := h.le.1
    rw [halfGap, if_pos ⟨mantissa, greater⟩, mantissa] at lower
    rw [ofRatio?_carry hnum hden (lt_of_le_of_ne hx.least_le (Ne.symm greater)) hx.le_greatest
      (by exact_mod_cast lower) below, ← mantissa]

/-! ### Rounding decimals -/

/-- Powers of two and of ten compare like their exponents times the logarithm of two, which is more than
`59 / 196` and less than `28 / 93`. -/
theorem ten_zpow_le_two_zpow {k n : Int} (more : 196 * k ≤ 59 * n) (less : 93 * k ≤ 28 * n) :
    (10 : ℚ) ^ k ≤ 2 ^ n := by
  obtain nonneg | nonpos := le_total 0 k
  · refine (pow_le_pow_iff_left₀ (by positivity) (zpow_pos two_pos n).le (by norm_num : 59 ≠ 0)).1 ?_
    obtain ⟨m, rfl⟩ := Int.eq_ofNat_of_zero_le nonneg
    calc ((10 : ℚ) ^ (m : Int)) ^ 59
      _ = (10 ^ 59) ^ m := by rw [zpow_natCast, ← pow_mul, ← pow_mul, mul_comm]
      _ ≤ (2 ^ 196) ^ m := pow_le_pow_left₀ (by norm_num) (by norm_num) m
      _ = 2 ^ (196 * (m : Int)) := by rw [zpow_mul, zpow_natCast, zpow_ofNat]
      _ ≤ 2 ^ (n * 59) := zpow_le_zpow_right₀ one_le_two (by omega)
      _ = (2 ^ n) ^ 59 := by rw [zpow_mul, zpow_ofNat]
  · refine (pow_le_pow_iff_left₀ (by positivity) (zpow_pos two_pos n).le (by norm_num : 28 ≠ 0)).1 ?_
    obtain ⟨m, rfl⟩ : ∃ m : Nat, k = -(m : Int) := ⟨k.natAbs, by omega⟩
    calc ((10 : ℚ) ^ (-(m : Int))) ^ 28
      _ = ((10 ^ 28) ^ m)⁻¹ := by rw [zpow_neg, zpow_natCast, inv_pow, ← pow_mul, ← pow_mul, mul_comm]
      _ ≤ ((2 ^ 93) ^ m)⁻¹ := by gcongr; norm_num
      _ = 2 ^ (93 * -(m : Int)) := by rw [zpow_mul, zpow_neg, zpow_natCast, zpow_ofNat]
      _ ≤ 2 ^ (n * 28) := zpow_le_zpow_right₀ one_le_two (by omega)
      _ = (2 ^ n) ^ 28 := by rw [zpow_mul, zpow_ofNat]

theorem two_zpow_le_ten_zpow {k n : Int} (more : 59 * n ≤ 196 * k) (less : 28 * n ≤ 93 * k) :
    (2 : ℚ) ^ n ≤ 10 ^ k := by
  have inverse : (10 : ℚ) ^ (-k) ≤ 2 ^ (-n) := ten_zpow_le_two_zpow (by omega) (by omega)
  rw [zpow_neg, zpow_neg] at inverse
  exact (inv_le_inv₀ (by positivity) (by positivity)).1 inverse

section Decimals

variable {digits : Nat}

/-- A number lies between the powers of ten that its number of digits names. -/
theorem digitCount_bounds (h : 0 < digits) :
    (10 : ℚ) ^ (digitCount digits - 1 : Int) ≤ digits ∧ (digits : ℚ) < 10 ^ (digitCount digits : Int) := by
  have some_digit : 0 < digitCount digits := Nat.length_toDigits_pos
  have count_le_iff {k : Nat} (hk : 0 < k) : digitCount digits ≤ k ↔ digits < 10 ^ k :=
    Nat.length_toDigits_le_iff (by norm_num) hk
  constructor
  · obtain ⟨k, hk⟩ := Nat.exists_eq_succ_of_ne_zero some_digit.ne'
    rw [hk, Nat.cast_succ, add_sub_cancel_right, zpow_natCast]
    obtain rfl | some_other := Nat.eq_zero_or_pos k
    · simpa using Nat.one_le_iff_ne_zero.2 h.ne'
    · exact_mod_cast not_lt.1 (mt (count_le_iff some_other).2 (by omega))
  · rw [zpow_natCast]
    exact_mod_cast (count_le_iff some_digit).1 (le_refl _)

theorem ofDecimal?_zero : ofDecimal? negative 0 e = some (zero negative) := by
  rw [ofDecimal?, if_pos rfl]

/-- A decimal that is neither too great nor too small is rounded like a ratio. -/
theorem ofDecimal?_eq_ofRatio? (negative : Bool) (h : 0 < digits) (large : -330 ≤ digitCount digits + e)
    (small : digitCount digits + e ≤ 310) :
    ∃ num den : Nat, 0 < num ∧ 0 < den ∧ (num / den : ℚ) = digits * 10 ^ e ∧
      ofDecimal? negative digits e = ofRatio? negative num den := by
  unfold ofDecimal?
  rw [if_neg h.ne', if_neg (by omega), if_neg (by omega)]
  split
  · next nonneg =>
    obtain ⟨n, rfl⟩ := Int.eq_ofNat_of_zero_le nonneg
    exact ⟨_, _, Nat.mul_pos h (Nat.pow_pos (by norm_num)), one_pos, by simp, rfl⟩
  · next neg =>
    obtain ⟨n, rfl⟩ : ∃ n : Nat, e = -(n : Int) := ⟨e.natAbs, by omega⟩
    refine ⟨_, _, h, Nat.pow_pos (by norm_num), ?_, rfl⟩
    rw [Int.neg_neg, Int.toNat_natCast, zpow_neg, zpow_natCast, div_eq_mul_inv, Nat.cast_pow, Nat.cast_ofNat]

theorem isCanonical_of_ofDecimal? (h : ofDecimal? negative digits e = some x) : x.IsCanonical := by
  obtain rfl | positive := Nat.eq_zero_or_pos digits
  · rw [ofDecimal?_zero] at h
    cases h
    exact isCanonical_zero
  by_cases small : digitCount digits + e ≤ 310
  · by_cases large : -330 ≤ digitCount digits + e
    · obtain ⟨num, den, hnum, hden, -, same⟩ := ofDecimal?_eq_ofRatio? negative positive large small
      exact isCanonical_of_ofRatio? hnum hden (same.symm.trans h)
    · rw [ofDecimal?, if_neg positive.ne', if_neg (by omega), if_pos (by omega)] at h
      cases h
      exact isCanonical_zero
  · rw [ofDecimal?, if_neg positive.ne', if_pos (by omega)] at h
    cases h

/-- The interval around a value lies between two powers of ten. -/
theorem IsNear.bounds (hx : x.IsCanonical) (positive : 0 < x.mantissa) (h : x.IsNear r) :
    (10 : ℚ) ^ (-324 : Int) ≤ r ∧ r < 10 ^ (309 : Int) := by
  obtain ⟨low, high⟩ := ((isNear_iff positive).1 h).le
  have one_le : (1 : ℚ) ≤ x.mantissa := by exact_mod_cast positive
  have half := x.halfGap_le
  constructor
  · calc (10 : ℚ) ^ (-324 : Int)
      _ ≤ 2 ^ (leastExponent - 1) := ten_zpow_le_two_zpow (by decide) (by decide)
      _ = 1 / 2 * 2 ^ leastExponent := by rw [zpow_sub_one₀ two_ne_zero, one_div, mul_comm]
      _ ≤ (x.mantissa - x.halfGap) * 2 ^ x.exponent :=
        mul_le_mul (by linarith) (zpow_le_zpow_right₀ one_le_two hx.least_le) (zpow_pos two_pos _).le (by linarith)
      _ ≤ r := low
  · have lt : (x.mantissa : ℚ) + 1 ≤ 2 ^ (53 : Int) := by
      rw [zpow_ofNat]
      exact_mod_cast hx.mantissa_lt
    calc r
      _ ≤ (x.mantissa + 1 / 2) * 2 ^ x.exponent := high
      _ < 2 ^ (53 : Int) * 2 ^ x.exponent := (mul_lt_mul_iff_left₀ (zpow_pos two_pos _)).2 (by linarith)
      _ ≤ 2 ^ (53 : Int) * 2 ^ greatestExponent :=
        mul_le_mul_of_nonneg_left (zpow_le_zpow_right₀ one_le_two hx.le_greatest) (zpow_pos two_pos _).le
      _ = 2 ^ (53 + greatestExponent) := (zpow_add₀ two_ne_zero _ _).symm
      _ ≤ 10 ^ (309 : Int) := two_zpow_le_ten_zpow (by decide) (by decide)

/-- **A decimal in the interval around a value is rounded to that value.** -/
theorem ofDecimal?_of_isNear (hx : x.IsCanonical) (positive : 0 < x.mantissa) (hdigits : 0 < digits)
    (h : x.IsNear (digits * 10 ^ e)) : ofDecimal? x.negative digits e = some x := by
  obtain ⟨above, below⟩ := h.bounds hx positive
  obtain ⟨low, high⟩ := digitCount_bounds hdigits
  have unit : (0 : ℚ) < 10 ^ e := by positivity
  have large : (10 : ℚ) ^ (-324 : Int) < 10 ^ (digitCount digits + e) := by
    rw [zpow_add₀ (by norm_num)]
    exact above.trans_lt ((mul_lt_mul_iff_left₀ unit).2 high)
  have small : (10 : ℚ) ^ (digitCount digits - 1 + e) < 10 ^ (309 : Int) := by
    rw [zpow_add₀ (by norm_num)]
    exact (mul_le_mul_of_nonneg_right low unit.le).trans_lt below
  rw [zpow_lt_zpow_iff_right₀ (by norm_num)] at large small
  obtain ⟨num, den, hnum, hden, value, same⟩ :=
    ofDecimal?_eq_ofRatio? x.negative hdigits (e := e) (by omega) (by omega)
  rw [same]
  exact ofRatio?_of_isNear hx positive hnum hden (value ▸ h)

end Decimals

end GovernedExpr.Binary64
