import GovernedExpr.Decimal.Binary64
import GovernedExpr.Text.Numeral

/-!
# Numbers of documents

* `Number` are the numbers of documents: integers, finite numbers of binary floating point, the
  two infinities and the one that is no number;
* `integer?` reads an integer in base ten, or in base two, eight or sixteen after `0b`, `0o` and
  `0x`;
* `float?` reads any other number;
* `Number.text` is the text of a number in its canonical form.
-/

namespace GovernedExpr.Yaml

open Text

/-- A number of a document. -/
inductive Number
  | integer (n : Int)
  | finite (x : Binary64)
  | infinity (negative : Bool)
  | nan
  deriving DecidableEq, Inhabited

/-- Whether two numbers are the same: an integer and a number of floating point never are. -/
def Number.same : Number → Number → Bool
  | .finite x, .finite y => x.equals y
  | a, b => a = b

/-! ### Reading -/

/-- The value of a digit in bases up to sixteen. -/
def digitIn? (base : Nat) (c : Char) : Option Nat :=
  let value :=
    if '0' ≤ c ∧ c ≤ '9' then some (c.toNat - '0'.toNat)
    else if 'a' ≤ c ∧ c ≤ 'f' then some (c.toNat - 'a'.toNat + 10)
    else if 'A' ≤ c ∧ c ≤ 'F' then some (c.toNat - 'A'.toNat + 10)
    else none
  value.filter fun d => d < base

/-- The value of a non-empty run of digits in a base. -/
def naturalIn? (base : Nat) : List Char → Option Nat
  | [] => none
  | cs => cs.foldlM (fun n c => (digitIn? base c).map fun d => n * base + d) 0

/-- A number in a base that its first two characters name. -/
def inNamedBase? : List Char → Option Nat
  | '0' :: 'x' :: digits => naturalIn? 16 digits
  | '0' :: 'o' :: digits => naturalIn? 8 digits
  | '0' :: 'b' :: digits => naturalIn? 2 digits
  | _ => none

/-- Whether a character is a decimal digit. -/
def isDecimal (c : Char) : Bool := '0' ≤ c && c ≤ '9'

/-- What follows the sign of a number, if there is one. -/
def unsigned : List Char → List Char
  | '+' :: rest => rest
  | '-' :: rest => rest
  | rest => rest

/-- Whether digits have a leading zero that a number would not have. -/
def hasIdleZero (cs : List Char) : Bool :=
  match unsigned cs with
  | '0' :: c :: rest => (c :: rest).all isDecimal
  | _ => false

/-- A number without a sign, in a named base or in base ten. -/
def magnitude? (cs : List Char) : Option Nat :=
  (inNamedBase? cs).or (if hasIdleZero cs then none else naturalIn? 10 cs)

/-- An integer with an optional sign. -/
def integer? : List Char → Option Int
  | '+' :: rest => (magnitude? rest).map fun (n : Nat) => (n : Int)
  | '-' :: rest => (magnitude? rest).map fun (n : Nat) => -(n : Int)
  | rest => (magnitude? rest).map fun (n : Nat) => (n : Int)

/-- The exponent after the mark of an exponent: a non-empty run of digits with an optional sign. -/
def exponent? : List Char → Option Int
  | '+' :: rest => (naturalIn? 10 rest).map fun (n : Nat) => (n : Int)
  | '-' :: rest => (naturalIn? 10 rest).map fun (n : Nat) => -(n : Int)
  | rest => (naturalIn? 10 rest).map fun (n : Nat) => (n : Int)

/-- A decimal without a sign: digits, a point and further digits, of which one of the two runs of
digits may be missing, and an exponent. -/
def decimal? (negative : Bool) (cs : List Char) : Option Binary64 :=
  let whole := cs.takeWhile isDecimal
  let (fraction, rest) :=
    match cs.dropWhile isDecimal with
    | '.' :: rest => (rest.takeWhile isDecimal, rest.dropWhile isDecimal)
    | rest => ([], rest)
  match naturalIn? 10 (whole ++ fraction) with
  | none => none
  | some digits =>
    let exponent :=
      match rest with
      | [] => some 0
      | 'e' :: rest => exponent? rest
      | 'E' :: rest => exponent? rest
      | _ => none
    exponent.bind fun e => Binary64.ofDecimal? negative digits (e - (fraction.length : Int))

/-- A number of floating point that is not finite. -/
def special? (cs : List Char) : Option Number :=
  let word := String.ofList cs
  if [".inf", ".Inf", ".INF", "+.inf", "+.Inf", "+.INF"].contains word then some (.infinity false)
  else if ["-.inf", "-.Inf", "-.INF"].contains word then some (.infinity true)
  else if [".nan", ".NaN", ".NAN"].contains word then some .nan
  else none

/-- A number of floating point. -/
def float? (cs : List Char) : Option Number :=
  match special? cs with
  | some n => some n
  | none =>
    match cs with
    | '+' :: rest => (decimal? false rest).map .finite
    | '-' :: rest => (decimal? true rest).map .finite
    | rest => (decimal? false rest).map .finite

/-! ### Writing -/

/-- Digits with a point behind the first of several. -/
def mantissaText : List Char → List Char
  | d :: d' :: others => d :: '.' :: d' :: others
  | ds => ds

/-- The text of a decimal `digits · 10 ^ place`: positional where the point stands at most sixteen
digits from the front and fewer than five zeros follow it, and with an exponent elsewhere. -/
def decimalText (digits : Nat) (place : Int) : List Char :=
  let ds := Nat.toDigits 10 digits
  let point := (ds.length : Int) + place
  if 0 ≤ place ∧ point ≤ 16 then ds ++ List.replicate place.toNat '0' ++ ['.', '0']
  else if 0 < point ∧ point ≤ 16 then ds.take point.toNat ++ '.' :: ds.drop point.toNat
  else if -5 < point ∧ point ≤ 0 then '0' :: '.' :: (List.replicate (-point).toNat '0' ++ ds)
  else mantissaText ds ++ 'e' :: (toString (point - 1)).toList

/-- The text of a finite number. -/
def finiteText (x : Binary64) : String :=
  let sign := if x.negative then ['-'] else []
  if x.mantissa = 0 then String.ofList (sign ++ ['0', '.', '0'])
  else
    let (digits, place) := x.shortest
    String.ofList (sign ++ decimalText digits place)

/-- The text of a number in its canonical form. -/
def Number.text : Number → String
  | .integer n => toString n
  | .finite x => finiteText x
  | .infinity negative => if negative then "-.inf" else ".inf"
  | .nan => ".nan"

end GovernedExpr.Yaml
