/-!
# Binary floating point of 64 bits

The finite values of the format with 53 significant bits and exponents from -1074 to 971, as
integers times powers of two; all arithmetic is exact.

* `Binary64` is a sign, a mantissa below 2 ^ 53 and an exponent;
* `Binary64.ofRatio?` rounds a positive ratio to the nearest value, a tie to the even mantissa;
* `Binary64.ofDecimal?` rounds an integer times a power of ten;
* `Binary64.shortest` is the shortest decimal that reads back as the value.
-/

namespace GovernedExpr

/-- The value `± mantissa · 2 ^ exponent`.  The mantissa has 53 bits unless the exponent is the
least one. -/
structure Binary64 where
  negative : Bool
  mantissa : Nat
  exponent : Int
  deriving DecidableEq, Inhabited

namespace Binary64

/-- The least exponent. -/
def leastExponent : Int := -1074

/-- The greatest exponent. -/
def greatestExponent : Int := 971

/-- Zero, with a sign. -/
def zero (negative : Bool) : Binary64 := ⟨negative, 0, leastExponent⟩

/-- Whether two values are equal as numbers: the sign of zero does not matter. -/
def equals (x y : Binary64) : Bool :=
  x = y || (x.mantissa = 0 && y.mantissa = 0)

/-! ### Rounding -/

/-- The nearest integer to a quotient; of two nearest ones the even one. -/
def roundQuotient (num den : Nat) : Nat :=
  let q := num / den
  let r := num % den
  if 2 * r < den then q else if den < 2 * r then q + 1 else q + q % 2

/-- Numerator and denominator of a ratio divided by a power of two. -/
def scale (num den : Nat) (exponent : Int) : Nat × Nat :=
  if 0 ≤ exponent then (num, den * Nat.pow 2 exponent.toNat)
  else (num * Nat.pow 2 (-exponent).toNat, den)

/-- The exponent at which a positive ratio has a mantissa of 53 bits, or the least one. -/
def exponentOf (num den : Nat) : Int :=
  let estimate : Int := (num.log2 : Int) - (den.log2 : Int) - 52
  let (n, d) := scale num den estimate
  max leastExponent (if n < d * Nat.pow 2 52 then estimate - 1 else estimate)

/-- The value with a rounded mantissa, which may be one too great for 53 bits, unless that is beyond the
greatest value. -/
def ofMantissa? (negative : Bool) (mantissa : Nat) (exponent : Int) : Option Binary64 :=
  if mantissa = Nat.pow 2 53 then
    if exponent + 1 ≤ greatestExponent then some ⟨negative, Nat.pow 2 52, exponent + 1⟩ else none
  else if exponent ≤ greatestExponent then some ⟨negative, mantissa, exponent⟩ else none

/-- The value nearest to a positive ratio, unless that is beyond the greatest one. -/
def ofRatio? (negative : Bool) (num den : Nat) : Option Binary64 :=
  let exponent := exponentOf num den
  let scaled := scale num den exponent
  ofMantissa? negative (roundQuotient scaled.1 scaled.2) exponent

/-- The number of decimal digits of a positive integer. -/
def digitCount (n : Nat) : Nat :=
  (Nat.toDigits 10 n).length

/-- The value nearest to `digits · 10 ^ exponent`, unless that is beyond the greatest one. -/
def ofDecimal? (negative : Bool) (digits : Nat) (exponent : Int) : Option Binary64 :=
  let magnitude := (digitCount digits : Int) + exponent
  if digits = 0 then some (zero negative)
  else if 310 < magnitude then none
  else if magnitude < -330 then some (zero negative)
  else if 0 ≤ exponent then ofRatio? negative (digits * Nat.pow 10 exponent.toNat) 1
  else ofRatio? negative digits (Nat.pow 10 (-exponent).toNat)

/-! ### Shortest decimals -/

/-- The four-fold mantissas of the two ends of the interval that rounds to a value. -/
def ends (x : Binary64) : Nat × Nat :=
  let low := if x.mantissa = Nat.pow 2 52 ∧ x.exponent ≠ leastExponent then 1 else 2
  (4 * x.mantissa - low, 4 * x.mantissa + 2)

/-- A quarter of the unit of a value and the unit `10 ^ place` of a grid, both measured in a common unit. -/
def unitsOnGrid (x : Binary64) (place : Int) : Nat × Nat :=
  let quarter := x.exponent - 2
  (Nat.pow 2 quarter.toNat * Nat.pow 10 (-place).toNat,
    Nat.pow 10 place.toNat * Nat.pow 2 (-quarter).toNat)

/-- Whether a number lies in the interval that rounds to a value, a quarter of whose unit is given. -/
def surrounds (x : Binary64) (quarter number : Nat) : Bool :=
  if x.mantissa % 2 = 0 then x.ends.1 * quarter ≤ number && number ≤ x.ends.2 * quarter
  else x.ends.1 * quarter < number && number < x.ends.2 * quarter

/-- On the multiples of `10 ^ place`, the one nearest to a value among those that round to it, in
units of `10 ^ place`. -/
def onGrid? (x : Binary64) (place : Int) : Option Nat :=
  let units := x.unitsOnGrid place
  let exact := 4 * x.mantissa * units.1
  let below := exact / units.2
  match x.surrounds units.1 (below * units.2), x.surrounds units.1 ((below + 1) * units.2) with
  | true, true => some (roundQuotient exact units.2)
  | true, false => some below
  | false, true => some (below + 1)
  | false, false => none

/-- The first grid from a place downwards that holds a decimal for the value. -/
def firstGrid (x : Binary64) : (grids : Nat) → (place : Int) → Nat × Int
  | 0, place => (0, place)
  | grids + 1, place =>
    match x.onGrid? place with
    | some digits => (digits, place)
    | none => firstGrid x grids (place - 1)

/-- The digits of the shortest decimal that reads back as a value other than zero, and the place
of the last digit.  Seventeen digits are always enough. -/
def shortest (x : Binary64) : Nat × Int :=
  let bits := x.exponent + (x.mantissa.log2 : Int) + 1
  x.firstGrid 24 (bits * 30103 / 100000 + 1)

end Binary64

end GovernedExpr
