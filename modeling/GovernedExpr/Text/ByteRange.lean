import GovernedExpr.Text.CodeSet

/-!
# Ranges of characters as ranges of bytes

In UTF-8 a character takes one to four bytes.  A range of characters is a union of products: each
product is a sequence of ranges of bytes, and its members are the sequences of bytes that take one
byte from each range.

* `utf8Bytes` are the bytes of a character;
* `cut?` finds a place where a range has to be cut, and `pieces` cuts it at all of them;
* `byteRanges` lists the products of a range, and `CodeSet.byteRanges` those of a set.
-/

namespace GovernedExpr.Text

/-- The bytes of a character. -/
def utf8Bytes (c : Nat) : List Nat :=
  if c < 0x80 then [c]
  else if c < 0x800 then [0xC0 + c / 0x40, 0x80 + c % 0x40]
  else if c < 0x10000 then [0xE0 + c / 0x1000, 0x80 + c / 0x40 % 0x40, 0x80 + c % 0x40]
  else
    [0xF0 + c / 0x40000, 0x80 + c / 0x1000 % 0x40, 0x80 + c / 0x40 % 0x40, 0x80 + c % 0x40]

/-- The code points where characters begin to take more bytes, and those where the surrogates
begin and end. -/
def fixedCuts : List Nat := [0x80, 0x800, 0x10000, surrogateFirst, surrogateLast + 1]

/-- The first place inside a range where a new product has to begin: where the number of bytes
changes, around the surrogates, or where the last bytes do not run over their full range. -/
def cut? (lo hi : Nat) : Option Nat :=
  match fixedCuts.find? fun place => lo < place && place ≤ hi with
  | some place => some place
  | none =>
    if hi < 0x80 then none
    else
      [0x40, 0x1000, 0x40000].findSome? fun block =>
        if lo / block = hi / block then none
        else if lo % block ≠ 0 then some ((lo / block + 1) * block)
        else if hi % block ≠ block - 1 then some (hi / block * block)
        else none

/-- Cut a range at every such place.  A range is cut at most so many times. -/
def pieces : (cuts : Nat) → (lo hi : Nat) → List (Nat × Nat)
  | 0, lo, hi => [(lo, hi)]
  | cuts + 1, lo, hi =>
    match cut? lo hi with
    | none => [(lo, hi)]
    | some place => pieces cuts lo (place - 1) ++ pieces cuts place hi

/-- The products of a range of code points, in ascending order. -/
def byteRanges (lo hi : Nat) : List (List (Nat × Nat)) :=
  ((pieces 12 lo hi).filter fun (a, _) => a < surrogateFirst || surrogateLast < a).map
    fun (a, b) => (utf8Bytes a).zip (utf8Bytes b)

namespace CodeSet

/-- The products of a set, in ascending order. -/
def byteRanges (s : CodeSet) : List (List (Nat × Nat)) :=
  s.ranges.flatMap fun (lo, hi) => Text.byteRanges lo hi

/-- Whether every member of a set takes one byte. -/
def isAscii (s : CodeSet) : Bool :=
  s.ranges.all fun (_, hi) => hi < 0x80

/-- The only member of a set, if the set has one member. -/
def member? (s : CodeSet) : Option Nat :=
  match s.ranges with
  | [(lo, hi)] => if lo = hi then some lo else none
  | _ => none

end CodeSet

end GovernedExpr.Text
