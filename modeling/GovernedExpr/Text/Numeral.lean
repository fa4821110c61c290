/-!
# Decimal numerals within bounds

An integer is written as an optional sign and ASCII decimal digits; leading zeros are allowed.

* `Bounds` is a closed interval of integers;
* `Bounds.read?` reads a numeral whose value lies in the interval.  A minus sign is understood
  only where some member of the interval is negative.
-/

namespace GovernedExpr.Text

/-- The value of an ASCII decimal digit. -/
def digitValue? (c : Char) : Option Nat :=
  if '0' ≤ c ∧ c ≤ '9' then some (c.toNat - '0'.toNat) else none

/-- The value of a run of digits that continues a number already read as `value`. -/
def digitsFrom? (value : Nat) : List Char → Option Nat
  | [] => some value
  | c :: rest =>
    match digitValue? c with
    | some d => digitsFrom? (value * 10 + d) rest
    | none => none

/-- The value of a non-empty run of digits. -/
def natural? : List Char → Option Nat
  | [] => none
  | cs => digitsFrom? 0 cs

/-- A closed interval of integers. -/
structure Bounds where
  least : Int
  greatest : Int
  deriving DecidableEq

namespace Bounds

/-- The integers of 64 bits. -/
def int64 : Bounds := ⟨-9223372036854775808, 9223372036854775807⟩

/-- The integers of 32 bits. -/
def int32 : Bounds := ⟨-2147483648, 2147483647⟩

/-- A value that lies within the bounds. -/
def check (b : Bounds) (n : Int) : Option Int :=
  if b.least ≤ n ∧ n ≤ b.greatest then some n else none

/-- Read an optionally signed numeral as a value within the bounds. -/
def readChars? (b : Bounds) : List Char → Option Int
  | '+' :: digits => (natural? digits).bind fun n => b.check n
  | '-' :: digits => if b.least < 0 then (natural? digits).bind fun n => b.check (-n) else none
  | digits => (natural? digits).bind fun n => b.check n

/-- Read a text as a value within the bounds; nothing may surround the numeral. -/
def read? (b : Bounds) (s : String) : Option Int :=
  b.readChars? s.toList

theorem check_eq_some_iff {b : Bounds} {m n : Int} :
    b.check m = some n ↔ m = n ∧ b.least ≤ n ∧ n ≤ b.greatest := by
  grind [check]

/-- What is read lies within the bounds. -/
theorem bounded_of_read? {b : Bounds} {s : String} {n : Int} (h : b.read? s = some n) :
    b.least ≤ n ∧ n ≤ b.greatest := by
  have checked {m : Option Nat} {f : Nat → Int} (h : (m.bind fun k => b.check (f k)) = some n) :
      b.least ≤ n ∧ n ≤ b.greatest := by
    obtain ⟨k, -, hk⟩ := Option.bind_eq_some_iff.1 h
    exact (check_eq_some_iff.1 hk).2
  unfold read? readChars? at h
  split at h
  · exact checked h
  · split at h
    · exact checked h
    · cases h
  · exact checked h

end Bounds

end GovernedExpr.Text
