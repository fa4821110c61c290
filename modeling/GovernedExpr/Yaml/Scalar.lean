import GovernedExpr.Yaml.Character
import GovernedExpr.Yaml.Number

/-!
# Scalars in a line or over several lines

A scalar is plain, or it stands in quotes.  Where it goes on over several lines, a single break
counts as a space, and of several breaks the first one is dropped.

* `Gap` is what parts two words of a scalar, `Gap.text` is what it stands for;
* `plainFrom` reads a plain scalar;
* `quotedFrom` reads a scalar in single or double quotes, and `escape?` what follows a backslash.
-/

namespace GovernedExpr.Yaml

/-- How a scalar is written. -/
inductive ScalarStyle
  | plain
  | quoted
  | literal
  | folded
  deriving DecidableEq, Inhabited

/-! ### Gaps -/

/-- What parts two words: the blanks at the end of the first line, and the breaks. -/
structure Gap where
  blanks : List Char
  breaks : List Char

/-- What breaks between two words stand for. -/
def foldedBreaks : List Char → List Char
  | ['\n'] => [' ']
  | '\n' :: others => others
  | breaks => breaks

/-- What a gap stands for. -/
def Gap.text (g : Gap) : List Char :=
  if g.breaks.isEmpty then g.blanks else foldedBreaks g.breaks

/-- Read a gap of which blanks and breaks, the latest first, are already read.  A tab must not
stand left of a column in a later line. -/
def gapFrom (least : Nat) (blanks breaks : List Char) (line column : Nat) :
    List Char → Option (Gap × Cursor)
  | [] => some (⟨blanks.reverse, breaks.reverse⟩, ⟨line, column, []⟩)
  | c :: rest =>
    if isBreak c then gapFrom least [] (c :: breaks) (line + 1) 0 rest
    else if !isGap c then some (⟨blanks.reverse, breaks.reverse⟩, ⟨line, column, c :: rest⟩)
    else if breaks.isEmpty then gapFrom least (c :: blanks) [] line (column + 1) rest
    else if c = '\t' && column < least then none
    else gapFrom least [] breaks line (column + 1) rest

/-- Read a gap. -/
def gap? (least : Nat) (c : Cursor) : Option (Gap × Cursor) :=
  gapFrom least [] [] c.line c.column c.rest

/-! ### Plain scalars -/

/-- The marks of a flow collection. -/
def flowMarks : List Char := [',', '[', ']', '{', '}']

/-- Whether a word of a plain scalar goes on. -/
def goesOn (flow : Bool) : List Char → Bool
  | [] => false
  | c :: rest =>
    !(endsWord (c :: rest) || (c = ':' && endsWord rest) || (flow && flowMarks.contains c))

/-- Read a word of a plain scalar.  In a flow collection no colon stands before a mark. -/
def plainWord? (flow : Bool) : List Char → Option (List Char × List Char)
  | [] => some ([], [])
  | c :: rest =>
    if !goesOn flow (c :: rest) then some ([], c :: rest)
    else if flow && c = ':' && beginsWith ('?' :: flowMarks) rest then none
    else (plainWord? flow rest).map fun (word, rest) => (c :: word, rest)

/-- Read a plain scalar whose later lines begin at a column or right of it.  The result says
whether the scalar was followed by a break. -/
def plainFrom (flow : Bool) (least : Nat) : Nat → Cursor → Option (List Char × Bool × Cursor)
  | 0, _ => none
  | fuel + 1, c => do
    let (word, rest) ← plainWord? flow c.rest
    let (gap, after) ← gap? least ⟨c.line, c.column + word.length, rest⟩
    if (flow || least ≤ after.column) && !after.atMark && !beginsWith ['#'] after.rest &&
        goesOn flow after.rest then
      let (text, broken, after) ← plainFrom flow least fuel after
      return (word ++ gap.text ++ text, broken, after)
    else
      return (word, !gap.breaks.isEmpty, after)

/-! ### Quoted scalars -/

/-- The character that a letter after a backslash stands for. -/
def letterEscape? : Char → Option Char
  | '0' => some '\x00'
  | 'a' => some '\x07'
  | 'b' => some '\x08'
  | 't' => some '\t'
  | '\t' => some '\t'
  | 'n' => some '\n'
  | 'v' => some '\x0B'
  | 'f' => some '\x0C'
  | 'r' => some '\r'
  | 'e' => some '\x1B'
  | ' ' => some ' '
  | '"' => some '"'
  | '/' => some '/'
  | '\\' => some '\\'
  | 'N' => some '\u0085'
  | '_' => some '\u00A0'
  | 'L' => some '\u2028'
  | 'P' => some '\u2029'
  | _ => none

/-- The number of digits after the letter of an escape that gives the number of a character. -/
def codeLength? : Char → Option Nat
  | 'x' => some 2
  | 'u' => some 4
  | 'U' => some 8
  | _ => none

/-- The character with a number that hexadecimal digits give. -/
def ofCode? (digits : List Char) : Option Char :=
  (naturalIn? 16 digits).bind fun n => if n.isValidChar then some (Char.ofNat n) else none

/-- The character that an escape stands for, and the number of digits after its letter. -/
def escape? (letter : Char) (rest : List Char) : Option (Char × Nat) :=
  match codeLength? letter with
  | none => (letterEscape? letter).map fun c => (c, 0)
  | some n =>
    let digits := rest.take n
    if digits.length = n then (ofCode? digits).map fun c => (c, n) else none

/-- Read a word of a quoted scalar, some characters of which are left to skip.  The word ends
before the quote that closes the scalar and before an escaped break.  The result says at which
column it ends. -/
def quotedWord? (single : Bool) (skip column : Nat) :
    List Char → Option (List Char × Nat × List Char)
  | [] => some ([], column, [])
  | c :: rest =>
    let more := fun (x : Char) (word : Option (List Char × Nat × List Char)) =>
      word.map fun (word, after) => (x :: word, after)
    match skip with
    | skip + 1 => quotedWord? single skip (column + 1) rest
    | 0 =>
      if endsWord (c :: rest) then some ([], column, c :: rest)
      else if single then
        if c = '\'' then
          if beginsWith ['\''] rest then more '\'' (quotedWord? single 1 (column + 1) rest)
          else some ([], column, c :: rest)
        else more c (quotedWord? single 0 (column + 1) rest)
      else if c = '"' then some ([], column, c :: rest)
      else if c = '\\' then
        match rest with
        | [] => none
        | letter :: rest =>
          if isBreak letter then some ([], column, c :: letter :: rest)
          else
            match escape? letter rest with
            | none => none
            | some (x, n) => more x (quotedWord? single n (column + 2) rest)
      else more c (quotedWord? single 0 (column + 1) rest)

/-- Read a quoted scalar after the quote that opens it. -/
def quotedFrom (single : Bool) : Nat → Cursor → Option (List Char × Cursor)
  | 0, _ => none
  | fuel + 1, c => do
    if c.atMark then none
    let (word, column, rest) ← quotedWord? single 0 c.column c.rest
    match rest with
    | [] => none
    | x :: rest =>
      if isGap x || isBreak x then
        let (gap, after) ← gap? 0 ⟨c.line, column, x :: rest⟩
        let (text, after) ← quotedFrom single fuel after
        return (word ++ gap.text ++ text, after)
      else if x = '\\' && !single then
        let (gap, after) ← gap? 0 (c.newLine (rest.drop 1))
        let (text, after) ← quotedFrom single fuel after
        return (word ++ gap.breaks ++ text, after)
      else
        return (word, ⟨c.line, column + 1, rest⟩)

end GovernedExpr.Yaml
