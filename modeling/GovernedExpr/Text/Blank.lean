/-!
# Blank characters

The characters of the Unicode property `White_Space`, and the two readings of a text that rest
on it.

* `isBlank` tells whether a character separates lexemes;
* `trim` drops the blanks at both ends of a text, and `plainWord` also the case of its ASCII
  letters;
* `lexemes` cuts a text into its maximal blank-free runs.
-/

namespace GovernedExpr.Text

/-- The ranges of `White_Space`, in ascending order, both ends included. -/
def blankRanges : List (Nat × Nat) :=
  [(0x9, 0xD), (0x20, 0x20), (0x85, 0x85), (0xA0, 0xA0), (0x1680, 0x1680), (0x2000, 0x200A),
    (0x2028, 0x2029), (0x202F, 0x202F), (0x205F, 0x205F), (0x3000, 0x3000)]

/-- Membership in `White_Space`. -/
def isBlank (c : Char) : Bool :=
  blankRanges.any fun (lo, hi) => lo ≤ c.toNat && c.toNat ≤ hi

/-- A list of characters without the blanks at its two ends. -/
def trimChars (cs : List Char) : List Char :=
  ((cs.dropWhile isBlank).reverse.dropWhile isBlank).reverse

/-- A text without the blanks at its two ends. -/
def trim (s : String) : String :=
  String.ofList (trimChars s.toList)

/-- A text without the blanks at its two ends, its ASCII letters in lower case. -/
def plainWord (s : String) : String :=
  String.ofList ((trimChars s.toList).map Char.toLower)

/-- The maximal runs of characters that are not blank, from left to right. -/
def lexemesOf (cs : List Char) : List (List Char) :=
  (cs.splitOnP isBlank).filter fun run => !run.isEmpty

@[simp] theorem lexemesOf_nil : lexemesOf [] = [] := rfl

/-- The lexemes of a text. -/
def lexemes (s : String) : List String :=
  (lexemesOf s.toList).map String.ofList

end GovernedExpr.Text
