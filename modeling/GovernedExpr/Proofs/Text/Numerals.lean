import GovernedExpr.Text.Numeral

/-!
# Numerals within different bounds

A text is a numeral or not, and has one value, whatever the bounds within which it is read; bounds only decide
whether the value counts.  It does not matter either whether the bounds are looked at in the end or after each
digit, since a value only gets larger by the digits that follow.

* `IsNumeral` says which texts are numerals, and of which value;
* `Bounds.readChars?_eq_some_iff` says that these are the values that are read within bounds, and
  `Bounds.read?_eq_some_iff_of_le` and `Bounds.readChars?_eq_filter` that narrow bounds choose from what is
  read within wide ones;
* `Bounds.readByDigits?` looks at the bounds after each digit, as one does with numbers of a fixed size, and
  `Bounds.readByDigits?_eq` says that it reads the same.
-/

namespace GovernedExpr.Text

variable {cs : List Char} {n : Int}

/-- A numeral and its value: a run of digits, behind a sign if there is one. -/
inductive IsNumeral : List Char → Int → Prop
  | bare {digits : List Char} {k : Nat} (value : natural? digits = some k) : IsNumeral digits k
  | plus {digits : List Char} {k : Nat} (value : natural? digits = some k) : IsNumeral ('+' :: digits) k
  | minus {digits : List Char} {k : Nat} (value : natural? digits = some k) :
      IsNumeral ('-' :: digits) (-k)

theorem natural?_plus (digits : List Char) : natural? ('+' :: digits) = none := rfl

theorem natural?_minus (digits : List Char) : natural? ('-' :: digits) = none := rfl

/-- A value only gets larger by the digits that follow. -/
theorem le_of_digitsFrom? {value k : Nat} (h : digitsFrom? value cs = some k) : value ≤ k := by
  induction cs generalizing value with
  | nil => exact Nat.le_of_eq (Option.some.inj h)
  | cons c cs ih =>
    unfold digitsFrom? at h
    split at h
    · next d _ =>
      have := ih h
      omega
    · cases h

namespace Bounds

variable {b b' : Bounds} {s : String}

/-- A number that lies between the bounds. -/
def Has (b : Bounds) (n : Int) : Prop :=
  b.least ≤ n ∧ n ≤ b.greatest

instance (b : Bounds) (n : Int) : Decidable (b.Has n) :=
  inferInstanceAs (Decidable (b.least ≤ n ∧ n ≤ b.greatest))

theorem check_of_has (h : b.Has n) : b.check n = some n := if_pos h

theorem check_of_not_has (h : ¬ b.Has n) : b.check n = none := if_neg h

theorem bind_check_eq_some_iff {found : Option Nat} {f : Nat → Int} :
    (found.bind fun k => b.check (f k)) = some n ↔ (∃ k, found = some k ∧ f k = n) ∧ b.Has n := by
  simp only [Option.bind_eq_some_iff, check_eq_some_iff, Has]
  constructor
  · rintro ⟨k, rfl, rfl, low, high⟩
    exact ⟨⟨k, rfl, rfl⟩, low, high⟩
  · rintro ⟨⟨k, rfl, rfl⟩, low, high⟩
    exact ⟨k, rfl, rfl, low, high⟩

/-- What is read is the value of the numeral, if it lies within the bounds.  Zero may be written with a minus
sign, so bounds that begin with it read less than the others. -/
theorem readChars?_eq_some_iff (h : b.least ≠ 0) : b.readChars? cs = some n ↔ IsNumeral cs n ∧ b.Has n := by
  unfold readChars?
  split
  · next digits =>
    rw [bind_check_eq_some_iff]
    refine and_congr_left fun _ => ⟨?_, ?_⟩
    · rintro ⟨k, value, rfl⟩
      exact .plus value
    · rintro (value | value)
      · cases (natural?_plus digits).symm.trans value
      · exact ⟨_, value, rfl⟩
  · next digits =>
    have signed : IsNumeral ('-' :: digits) n ↔ ∃ k, natural? digits = some k ∧ -(k : Int) = n := by
      constructor
      · rintro (value | _ | value)
        · cases (natural?_minus digits).symm.trans value
        · exact ⟨_, value, rfl⟩
      · rintro ⟨k, value, rfl⟩
        exact .minus value
    split
    · rw [bind_check_eq_some_iff, signed]
    · -- all numbers within the bounds are positive
      refine iff_of_false nofun ?_
      rw [signed]
      rintro ⟨⟨k, -, rfl⟩, low, -⟩
      omega
  · next plus minus =>
    rw [bind_check_eq_some_iff]
    refine and_congr_left fun _ => ⟨?_, ?_⟩
    · rintro ⟨k, value, rfl⟩
      exact .bare value
    · rintro (value | value | value)
      · exact ⟨_, value, rfl⟩
      · exact absurd rfl (plus _)
      · exact absurd rfl (minus _)

/-- **Narrow bounds choose from what is read within wide ones.** -/
theorem read?_eq_some_iff_of_le (low : b'.least ≤ b.least) (high : b.greatest ≤ b'.greatest)
    (h : b.least ≠ 0) (h' : b'.least ≠ 0) : b.read? s = some n ↔ b'.read? s = some n ∧ b.Has n := by
  unfold read?
  rw [readChars?_eq_some_iff h, readChars?_eq_some_iff h', and_assoc]
  refine and_congr_right fun _ => ⟨fun within => ⟨?_, within⟩, And.right⟩
  exact ⟨Int.le_trans low within.1, Int.le_trans within.2 high⟩

/-- Natural numbers within narrow bounds are chosen from what is read within wide ones. -/
theorem readChars?_eq_filter (low : b'.least ≤ b.least) (high : b.greatest ≤ b'.greatest)
    (natural : 0 ≤ b'.least) (cs : List Char) :
    b.readChars? cs = (b'.readChars? cs).filter fun n => b.Has n := by
  have chosen (k : Int) : b.check k = (b'.check k).filter fun n => b.Has n := by
    by_cases within : b.Has k
    · have wide : b'.Has k := ⟨Int.le_trans low within.1, Int.le_trans within.2 high⟩
      simp [check_of_has within, check_of_has wide, Option.filter, within]
    · by_cases wide : b'.Has k
      · simp [check_of_not_has within, check_of_has wide, Option.filter, within]
      · simp [check_of_not_has within, check_of_not_has wide]
  have all (found : Option Nat) (f : Nat → Int) : (found.bind fun k => b.check (f k)) =
      (found.bind fun k => b'.check (f k)).filter fun n => b.Has n := by
    cases found with
    | none => rfl
    | some k => exact chosen (f k)
  unfold readChars?
  split
  · exact all _ _
  · rw [if_neg (by omega), if_neg (by omega), Option.filter_none]
  · exact all _ _

/-! ### Bounds after each digit -/

/-- The numbers of a byte. -/
def byte : Bounds := ⟨0, 255⟩

/-- The value of a run of digits that continues a number, each digit counted with the sign.  The number stays
within the bounds all the way. -/
def accumulate? (b : Bounds) (sign value : Int) : List Char → Option Int
  | [] => some value
  | c :: rest =>
    match digitValue? c with
    | some d => (b.check (value * 10)).bind fun shifted =>
      (b.check (shifted + sign * d)).bind fun next => b.accumulate? sign next rest
    | none => none

/-- The value of a non-empty run of digits, with a sign. -/
def accumulated? (b : Bounds) (sign : Int) : List Char → Option Int
  | [] => none
  | cs => b.accumulate? sign 0 cs

/-- Read an optionally signed numeral as a value that stays within the bounds after each digit. -/
def readByDigits? (b : Bounds) : List Char → Option Int
  | '+' :: digits => b.accumulated? 1 digits
  | '-' :: digits => if b.least < 0 then b.accumulated? (-1) digits else none
  | digits => b.accumulated? 1 digits

/-- A number that is nearer to zero than one within the bounds lies within them. -/
theorem Has.of_le {sign : Int} {k l : Nat} (h : b.Has (sign * l)) (zero : b.Has 0)
    (unit : sign = 1 ∨ sign = -1) (le : k ≤ l) : b.Has (sign * k) := by
  unfold Has at *
  rcases unit with rfl | rfl <;> omega

theorem accumulate?_eq {sign : Int} (unit : sign = 1 ∨ sign = -1) (zero : b.Has 0) {value : Nat}
    (h : b.Has (sign * value)) :
    b.accumulate? sign (sign * value) cs = (digitsFrom? value cs).bind fun k => b.check (sign * k) := by
  induction cs generalizing value with
  | nil => exact (check_of_has h).symm
  | cons c cs ih =>
    unfold accumulate? digitsFrom?
    cases digitValue? c with
    | none => rfl
    | some d =>
      have shifted : sign * value * 10 = sign * (value * 10 : Nat) := by
        rw [Int.natCast_mul, Int.mul_assoc]
        rfl
      have next : sign * (value * 10 : Nat) + sign * d = sign * (value * 10 + d : Nat) := by
        rw [Int.natCast_add, Int.mul_add]
      dsimp only
      rw [shifted]
      by_cases within : b.Has (sign * (value * 10 + d : Nat))
      · rw [check_of_has (within.of_le zero unit (Nat.le_add_right _ _)), Option.bind_some, next,
          check_of_has within, Option.bind_some, ih within]
      · -- once the bounds are left, they are not come back to
        have left : (b.check (sign * (value * 10 : Nat))).bind (fun shifted =>
            (b.check (shifted + sign * d)).bind fun next => b.accumulate? sign next cs) = none := by
          by_cases first : b.Has (sign * (value * 10 : Nat))
          · rw [check_of_has first, Option.bind_some, next, check_of_not_has within, Option.bind_none]
          · rw [check_of_not_has first, Option.bind_none]
        rw [left]
        cases read : digitsFrom? (value * 10 + d) cs with
        | none => rfl
        | some k =>
          have beyond : ¬ b.Has (sign * k) := fun h =>
            within (h.of_le zero unit (le_of_digitsFrom? read))
          exact (check_of_not_has beyond).symm

theorem accumulated?_eq {sign : Int} (unit : sign = 1 ∨ sign = -1) (zero : b.Has 0) :
    b.accumulated? sign cs = (natural? cs).bind fun k => b.check (sign * k) := by
  cases cs with
  | nil => rfl
  | cons c cs =>
    have start : b.accumulate? sign (sign * (0 : Nat)) (c :: cs) =
        (digitsFrom? 0 (c :: cs)).bind fun k => b.check (sign * k) :=
      accumulate?_eq unit zero (by simpa using zero)
    rwa [Int.natCast_zero, Int.mul_zero] at start

/-- **Looking at the bounds after each digit makes no difference.** -/
theorem readByDigits?_eq (zero : b.Has 0) (cs : List Char) : b.readByDigits? cs = b.readChars? cs := by
  unfold readByDigits? readChars?
  split
  · simp only [accumulated?_eq (.inl rfl) zero, Int.one_mul]
  · simp only [accumulated?_eq (.inr rfl) zero, Int.neg_one_mul]
  · simp only [accumulated?_eq (.inl rfl) zero, Int.one_mul]

end Bounds

end GovernedExpr.Text
