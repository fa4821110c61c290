import GovernedExpr.Text.Numeral

/-!
# Decimal forms of numbers

The decimal form of a number is a numeral, and the value of that numeral is the number.

* `Text.natural?_repr` says so of natural numbers;
* `Text.integer?` reads an integer of any size, and `Text.integer?_repr` is the statement about it;
* `Text.mem_repr_int` says which characters a decimal form consists of.
-/

namespace GovernedExpr.Text

theorem digitValue?_of_isDigit {c : Char} (h : c.isDigit = true) :
    digitValue? c = some (c.toNat - '0'.toNat) := by
  have bounds : '0' ≤ c ∧ c ≤ '9' := by simpa [Char.isDigit, Char.le_def] using h
  rw [digitValue?, if_pos bounds]

/-- The value of digits that continue a number. -/
theorem digitsFrom?_eq {digits : List Char} (h : ∀ c ∈ digits, c.isDigit = true) (value : Nat) :
    digitsFrom? value digits = some (Nat.ofDigitChars 10 digits value) := by
  induction digits generalizing value with
  | nil => rfl
  | cons c digits ih =>
    obtain ⟨hc, others⟩ := List.forall_mem_cons.1 h
    simp only [digitsFrom?, digitValue?_of_isDigit hc]
    rw [ih others, Nat.ofDigitChars_cons, Nat.mul_comm]

theorem isDigit_of_mem_repr {n : Nat} {c : Char} (h : c ∈ n.repr.toList) : c.isDigit = true := by
  rw [Nat.toList_repr] at h
  exact Nat.isDigit_of_mem_toDigits (by decide) (by decide) h

/-- **The value of the decimal form of a number is the number.** -/
theorem natural?_repr (n : Nat) : natural? n.repr.toList = some n := by
  have digits : ∀ c ∈ n.repr.toList, c.isDigit = true := fun c hc => isDigit_of_mem_repr hc
  have value : Nat.ofDigitChars 10 n.repr.toList 0 = n := by
    rw [Nat.toList_repr, Nat.ofDigitChars_ten_toDigits]
  unfold natural?
  split
  · next empty => exact absurd empty (by simp)
  · rw [digitsFrom?_eq digits, value]

/-! ### Integers -/

/-- The value of an integer that is written with a minus sign or with no sign. -/
def integer? : List Char → Option Int
  | '-' :: digits => (natural? digits).map fun (n : Nat) => -(n : Int)
  | digits => (natural? digits).map Int.ofNat

theorem integer?_of_head_ne {digits : List Char} (h : ∀ c ∈ digits, c ≠ '-') :
    integer? digits = (natural? digits).map Int.ofNat := by
  unfold integer?
  split
  · exact absurd rfl (h '-' List.mem_cons_self)
  · rfl

/-- A decimal form consists of digits, behind a minus sign if the number is negative. -/
theorem toList_repr_int (i : Int) :
    i.repr.toList = if 0 ≤ i then i.toNat.repr.toList else '-' :: (-i).toNat.repr.toList := by
  rw [Int.repr_eq_if]
  split
  · rfl
  · rw [String.toList_append]
    rfl

theorem mem_repr_int {i : Int} {c : Char} (h : c ∈ i.repr.toList) :
    c = '-' ∨ c.isDigit = true := by
  rw [toList_repr_int] at h
  split at h
  · exact .inr (isDigit_of_mem_repr h)
  · rcases List.mem_cons.1 h with rfl | h
    · exact .inl rfl
    · exact .inr (isDigit_of_mem_repr h)

/-- **The value of the decimal form of an integer is the integer.** -/
theorem integer?_repr (i : Int) : integer? i.repr.toList = some i := by
  rw [toList_repr_int]
  split
  · next nonneg =>
    have unsigned : ∀ c ∈ i.toNat.repr.toList, c ≠ '-' := by
      rintro c hc rfl
      exact absurd (isDigit_of_mem_repr hc) (by decide)
    rw [integer?_of_head_ne unsigned, natural?_repr, Option.map_some]
    exact congrArg some (Int.toNat_of_nonneg nonneg)
  · next negative =>
    have size : ((-i).toNat : Int) = -i := Int.toNat_of_nonneg (by omega)
    simp only [integer?, natural?_repr, Option.map_some, size, Int.neg_neg]

end GovernedExpr.Text
