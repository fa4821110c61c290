import GovernedExpr.Yaml.Character
import GovernedExpr.Yaml.Number

/-!
# Scalars of whole lines

A block scalar consists of whole lines, all indented.  A literal one keeps its breaks; a folded
one joins neighbouring lines that do not begin with a blank.

* `BlockLine` is a line with the breaks after it, `joinLines` joins lines;
* `Chomping` says which of the breaks after the last line belong to the scalar;
* `blockHeader?` reads what stands after the mark of the scalar;
* `blockScalar?` reads the scalar.
-/

namespace GovernedExpr.Yaml

/-! ### Lines -/

/-- A line of a block scalar, and the breaks after it: its own and those of empty lines. -/
structure BlockLine where
  text : List Char
  breaks : List Char

/-- What stands for the breaks between two lines. -/
def breaksBetween (folds : Bool) (above below : BlockLine) : List Char :=
  let indented := beginsWith [' ', '\t'] above.text || beginsWith [' ', '\t'] below.text
  match above.breaks with
  | ['\n'] => if folds && !indented then [' '] else ['\n']
  | '\n' :: others => if folds && !indented then others else '\n' :: others
  | breaks => breaks

/-- The text of lines without the breaks at their end. -/
def joinLines (folds : Bool) : List BlockLine → List Char
  | [] => []
  | [line] => line.text
  | above :: below :: rest =>
    above.text ++ (breaksBetween folds above below ++ joinLines folds (below :: rest))

/-- Which breaks at the end belong to a scalar. -/
inductive Chomping
  /-- None of them. -/
  | strip
  /-- The first one. -/
  | clip
  /-- All of them. -/
  | keep
  deriving DecidableEq, Inhabited

/-- The breaks at the end that belong to a scalar. -/
def Chomping.ending : Chomping → List Char → List Char
  | strip, _ => []
  | clip, breaks => breaks.take 1
  | keep, breaks => breaks

/-- The text of a block scalar with breaks of empty lines before its first line. -/
def blockText (folds : Bool) (chomping : Chomping) (leading : List Char) (lines : List BlockLine) :
    List Char :=
  match lines.getLast? with
  | none => if chomping = .keep then leading else []
  | some last => leading ++ (joinLines folds lines ++ chomping.ending last.breaks)

/-! ### Reading -/

/-- Read a mark of chomping, if there is one. -/
def chompingMark : List Char → Option Chomping × List Char
  | '+' :: rest => (some .keep, rest)
  | '-' :: rest => (some .strip, rest)
  | rest => (none, rest)

/-- Read a digit that gives the depth of the lines, if there is one; it must not be zero. -/
def depthMark? : List Char → Option (Option Nat × List Char)
  | [] => some (none, [])
  | c :: rest =>
    match digitIn? 10 c with
    | none => some (none, c :: rest)
    | some 0 => none
    | some depth => some (some depth, rest)

/-- Read the marks of a block scalar, which come in either order. -/
def blockHeader? (cs : List Char) : Option (Chomping × Option Nat × List Char) := do
  let (first, rest) := chompingMark cs
  let (depth, rest) ← depthMark? rest
  let (second, rest) := if first.isSome then (none, rest) else chompingMark rest
  return ((first.or second).getD .clip, depth, rest)

/-- Read empty lines and the indentation of the line after them, which goes as far as a column
if one is given.  The result says how wide the widest indentation was and which breaks, the
latest first, were read. -/
def emptyLinesFrom (limit : Option Nat) (widest : Nat) (breaks : List Char) (line column : Nat) :
    List Char → Option (Nat × List Char × Cursor)
  | [] => some (max widest column, breaks.reverse, ⟨line, column, []⟩)
  | c :: rest =>
    let inside := limit.all fun limit => column < limit
    if inside && c = ' ' then emptyLinesFrom limit widest breaks line (column + 1) rest
    else if inside && c = '\t' then none
    else if isBreak c then
      emptyLinesFrom limit (max widest column) (c :: breaks) (line + 1) 0 rest
    else some (max widest column, breaks.reverse, ⟨line, column, c :: rest⟩)

/-- Read empty lines. -/
def emptyLines? (limit : Option Nat) (c : Cursor) : Option (Nat × List Char × Cursor) :=
  emptyLinesFrom limit 0 [] c.line c.column c.rest

/-- Read the lines that are indented as far as a column. -/
def blockLinesFrom (indent : Nat) : Nat → Cursor → Option (List BlockLine × Cursor)
  | 0, _ => none
  | fuel + 1, c =>
    if c.column = indent && !c.rest.isEmpty then do
      let text := c.rest.takeWhile fun x => !isBreak x
      let rest := c.rest.dropWhile fun x => !isBreak x
      let next :=
        if rest.isEmpty then ⟨c.line, c.column + text.length, []⟩ else c.newLine (rest.drop 1)
      let (_, breaks, next) ← emptyLines? (some indent) next
      let (lines, after) ← blockLinesFrom indent fuel next
      return (⟨text, rest.take 1 ++ breaks⟩ :: lines, after)
    else some ([], c)

/-- Read a block scalar after its mark, in a block that is indented as far as a column if it is
inside of one. -/
def blockScalar? (folds : Bool) (outer : Option Nat) (fuel : Nat) (c : Cursor) :
    Option (List Char × Cursor) := do
  let (chomping, depth, rest) ← blockHeader? c.rest
  let next ← (c.upTo rest).restOfLine?
  let limit := depth.map fun depth => outer.getD 0 + depth
  let (widest, leading, next) ← emptyLines? limit next
  let least := max 1 (outer.elim 0 fun column => column + 1)
  let (lines, after) ← blockLinesFrom (limit.getD (max widest least)) fuel next
  return (blockText folds chomping leading lines, after)

end GovernedExpr.Yaml
