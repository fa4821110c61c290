import GovernedExpr.Proofs.Decimal.Rounding

/-!
# Shortest decimals

The shortest decimal of a value lies in the interval around the value, so it is rounded to the value again.

* `Binary64.isNear_of_onGrid?` says so of the decimals on a grid, and `Binary64.exists_onGrid?` says which
  grids are fine enough to hold one;
* `Binary64.isNear_shortest` is the statement about the shortest decimal, and
  `Binary64.ofDecimal?_of_eq_shortest` what it is rounded to.
-/

namespace GovernedExpr.Binary64

variable {x : Binary64} {place : Int} {c : Nat}

/-! ### Grids -/

/-- The common unit of a value and a grid. -/
theorem exists_common_unit (x : Binary64) (place : Int) : ∃ u : ℚ, 0 < u ∧
    ((x.unitsOnGrid place).1 : ℚ) = 2 ^ (x.exponent - 2) * u ∧ ((x.unitsOnGrid place).2 : ℚ) = 10 ^ place * u := by
  have split {b : ℚ} (hb : 0 < b) (z : Int) : b ^ z.toNat = b ^ z * b ^ (-z).toNat := by
    rw [← zpow_natCast, ← zpow_natCast, ← zpow_add₀ hb.ne']
    congr 1
    omega
  refine ⟨2 ^ (-(x.exponent - 2)).toNat * 10 ^ (-place).toNat, by positivity, ?_, ?_⟩
  · simp only [unitsOnGrid, Nat.pow_eq, Nat.cast_mul, Nat.cast_pow, Nat.cast_ofNat]
    rw [split two_pos, mul_assoc]
  · simp only [unitsOnGrid, Nat.pow_eq, Nat.cast_mul, Nat.cast_pow, Nat.cast_ofNat]
    rw [split (by norm_num : (0 : ℚ) < 10)]
    ring

theorem surrounds_iff : x.surrounds (x.unitsOnGrid place).1 (c * (x.unitsOnGrid place).2) = true ↔
    x.IsNear (c * 10 ^ place) := by
  obtain ⟨u, hu, quarter, unit⟩ := exists_common_unit x place
  have scaled : x.IsNear (c * 10 ^ place) ↔ Within x.mantissa (x.ends.1 * (x.unitsOnGrid place).1)
      (x.ends.2 * (x.unitsOnGrid place).1) (c * (x.unitsOnGrid place).2) := by
    rw [IsNear, ← mul_div_cancel_right₀ ((c : ℚ) * 10 ^ place) hu.ne', within_div_iff hu, quarter, unit]
    simp only [mul_assoc]
  rw [scaled, surrounds, Within]
  split
  · simp only [Bool.and_eq_true, decide_eq_true_eq]
    norm_cast
  · simp only [Bool.and_eq_true, decide_eq_true_eq]
    norm_cast

/-- What is found on a grid rounds to the value. -/
theorem isNear_of_onGrid? (h : x.onGrid? place = some c) : x.IsNear (c * 10 ^ place) := by
  rw [← surrounds_iff]
  unfold onGrid? at h
  dsimp only at h
  have rounded (num den : Nat) : roundQuotient num den = num / den ∨ roundQuotient num den = num / den + 1 := by
    unfold roundQuotient
    dsimp only
    split
    · exact .inl rfl
    · split
      · exact .inr rfl
      · omega
  split at h
  · next below above =>
    obtain rfl := Option.some.inj h
    obtain nearest | nearest := rounded (4 * x.mantissa * (x.unitsOnGrid place).1) (x.unitsOnGrid place).2
    · rwa [nearest]
    · rwa [nearest]
  · next below above =>
    obtain rfl := Option.some.inj h
    exact below
  · next below above =>
    obtain rfl := Option.some.inj h
    exact above
  · cases h

/-- A grid that is finer than a quarter of the unit of a value holds a decimal that rounds to the value. -/
theorem exists_onGrid? (positive : 0 < x.mantissa) (fine : (10 : ℚ) ^ place ≤ 2 ^ (x.exponent - 2)) :
    ∃ c, x.onGrid? place = some c := by
  obtain ⟨u, hu, quarter, unit⟩ := exists_common_unit x place
  unfold onGrid?
  obtain ⟨Q, hQ⟩ : ∃ Q, (x.unitsOnGrid place).1 = Q := ⟨_, rfl⟩
  obtain ⟨U, hU⟩ : ∃ U, (x.unitsOnGrid place).2 = U := ⟨_, rfl⟩
  simp only [hQ, hU] at quarter unit ⊢
  have unit_pos : 0 < U := by
    have : (0 : ℚ) < U := unit ▸ mul_pos (by positivity) hu
    exact_mod_cast this
  have unit_le : U ≤ Q := by
    have : (U : ℚ) ≤ Q := by
      rw [quarter, unit]
      gcongr
    exact_mod_cast this
  -- the first decimal above the value is inside
  have above : x.surrounds Q ((4 * x.mantissa * Q / U + 1) * U) = true := by
    have next : 4 * x.mantissa * Q < 4 * x.mantissa * Q / U * U + U := Nat.lt_div_mul_add unit_pos
    have last : 4 * x.mantissa * Q / U * U ≤ 4 * x.mantissa * Q := Nat.div_mul_le_self _ _
    have low : x.ends.1 * Q < 4 * x.mantissa * Q := by
      refine Nat.mul_lt_mul_of_pos_right ?_ (unit_pos.trans_le unit_le)
      unfold ends
      dsimp only
      split <;> omega
    have high : x.ends.2 * Q = 4 * x.mantissa * Q + Q + Q := by
      simp only [ends]
      ring
    rw [surrounds, add_mul, one_mul]
    split
    · simp only [Bool.and_eq_true, decide_eq_true_eq]
      omega
    · simp only [Bool.and_eq_true, decide_eq_true_eq]
      omega
  rw [above]
  cases x.surrounds Q (4 * x.mantissa * Q / U * U) with
  | true => exact ⟨_, rfl⟩
  | false => exact ⟨_, rfl⟩

/-! ### The first grid -/

/-- The first grid that holds a decimal is found. -/
theorem firstGrid_spec {grids : Nat} (found : ∃ k < grids, ∃ c, x.onGrid? (place - k) = some c) :
    x.IsNear ((x.firstGrid grids place).1 * 10 ^ (x.firstGrid grids place).2) := by
  induction grids generalizing place with
  | zero => simp at found
  | succ grids ih =>
    unfold firstGrid
    cases h : x.onGrid? place with
    | some digits => exact isNear_of_onGrid? h
    | none =>
      refine ih ?_
      obtain ⟨_ | k, small, c, hc⟩ := found
      · rw [Nat.cast_zero, sub_zero, h] at hc
        cases hc
      · refine ⟨k, by omega, c, ?_⟩
        rw [← hc]
        congr 1
        omega

/-- **The shortest decimal of a value lies in the interval around the value.** -/
theorem isNear_shortest (hx : x.IsCanonical) (positive : 0 < x.mantissa) :
    x.IsNear (x.shortest.1 * 10 ^ x.shortest.2) := by
  unfold shortest
  have bits : x.mantissa.log2 ≤ 52 :=
    Nat.lt_succ_iff.1 ((Nat.log2_lt positive.ne').2 hx.mantissa_lt)
  have least := hx.least_le
  have greatest := hx.le_greatest
  refine firstGrid_spec ⟨23, by norm_num, exists_onGrid? positive (ten_zpow_le_two_zpow ?_ ?_)⟩
  · simp only [leastExponent, greatestExponent] at *
    omega
  · simp only [leastExponent, greatestExponent] at *
    omega

theorem shortest_pos (hx : x.IsCanonical) (positive : 0 < x.mantissa) : 0 < x.shortest.1 := by
  have low := (((isNear_iff positive).1 (isNear_shortest hx positive)).le).1
  refine Nat.pos_of_ne_zero fun zero => ?_
  rw [zero, Nat.cast_zero, zero_mul] at low
  have one_le : (1 : ℚ) ≤ x.mantissa := by exact_mod_cast positive
  have : 0 < (x.mantissa - x.halfGap) * 2 ^ x.exponent :=
    mul_pos (by linarith [x.halfGap_le]) (zpow_pos two_pos _)
  linarith

/-- **The shortest decimal of a value is rounded to the value**, however many zeros it is written
with. -/
theorem ofDecimal?_of_eq_shortest {digits : Nat} (hx : x.IsCanonical) (positive : 0 < x.mantissa)
    (some_digit : 0 < digits)
    (same : (digits * 10 ^ place : ℚ) = x.shortest.1 * 10 ^ x.shortest.2) :
    ofDecimal? x.negative digits place = some x :=
  ofDecimal?_of_isNear hx positive some_digit (same ▸ isNear_shortest hx positive)

end GovernedExpr.Binary64
