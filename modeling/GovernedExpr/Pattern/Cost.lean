import GovernedExpr.Pattern.Extent
import GovernedExpr.Pattern.Resolve
import GovernedExpr.Pattern.Shape

/-!
# The cost of a pattern

A pattern is refused when one of its two automata, which read a text forwards and backwards, would
take too much memory.

* `Shape.grow?` adds the states of a shape to an automaton, as long as it stays within the limit;
* `Shape.fits?` builds the automaton of one direction;
* `Shape.costBound` is a bound on the memory of both that is easy to find, so that only large
  patterns need to be built;
* `Pattern.ofText?` reads a pattern that is within the limit.
-/

namespace GovernedExpr

open Text

/-- Grow an extent a number of times. -/
def Extent.repeat? (grow? : Extent → Option Extent) : Nat → Extent → Option Extent
  | 0, e => some e
  | n + 1, e =>
    match grow? e with
    | some e => repeat? grow? n e
    | none => none

namespace Shape

mutual

/-- Whether every text that a shape matches has characters, if it matches any text. -/
def needsText? : Shape → Option Bool
  | .empty => some false
  | .text _ => some true
  | .oneOf set => if set.isEmpty then none else some true
  | .assertion _ => some false
  | .capture body => body.needsText?
  | .repeated body least _ => (body.needsText?).map (· && 0 < least)
  | .inOrder parts => (needs? parts).map List.or
  | .anyOf branches => (needs? branches).map List.and

/-- The same for each of some shapes. -/
def needs? : List Shape → Option (List Bool)
  | [] => some []
  | s :: rest => do
    let first ← s.needsText?
    let others ← needs? rest
    some (first :: others)

end

/-- Grow an extent by a repetition of a body, given how the body grows it. -/
def growRepeated? (grow? : Extent → Option Extent) (needsText : Bool) (least : Nat)
    (most : Option Nat) (e : Extent) : Option Extent :=
  match least, most with
  | 0, none =>
    if needsText then grow? (e.add 1 (2 * Extent.choiceBytes))
    else (grow? e).bind fun e => (e.add 3 (4 * Extent.choiceBytes)).bounded?
  | least, none =>
    (Extent.repeat? grow? least e).bind fun e => (e.add 1 (2 * Extent.choiceBytes)).bounded?
  | 0, some 1 => (grow? (e.add 1 (2 * Extent.choiceBytes))).bind fun e => (e.add 1 0).bounded?
  | least, some most => do
    let e ← if least = 0 then (e.add 1 0).bounded? else Extent.repeat? grow? least e
    if most ≤ least then some e
    else
      Extent.repeat? (fun e => grow? (e.add 1 (2 * Extent.choiceBytes))) (most - least)
        (e.add 1 0)

mutual

/-- Grow an extent by the states of a shape, within the limit. -/
def grow? (direction : Direction) : Shape → Extent → Option Extent
  | .empty, e => (e.add 1 0).bounded?
  | .text cs, e => (e.add (cs.flatMap utf8Bytes).length 0).bounded?
  | .oneOf set, e => (e.withSet direction set).bounded?
  | .assertion _, e => (e.add 1 0).bounded?
  | .capture body, e =>
    match direction with
    | .forward => (grow? .forward body (e.add 1 0)).bind fun e => (e.add 1 0).bounded?
    | .backward => grow? .backward body e
  | .repeated body least most, e =>
    growRepeated? (grow? direction body) (body.needsText? == some true) least most e
  | .inOrder parts, e => growInOrder? direction parts e
  | .anyOf branches, e =>
    match branches.mapM text? with
    | some texts => (e.withWords direction (texts.map fun cs => cs.flatMap utf8Bytes)).bounded?
    | none =>
      growChoice? direction branches 0 (e.add 0 (Extent.choiceBytes * branches.length))

/-- Grow an extent by parts one after the other, in the direction of reading. -/
def growInOrder? (direction : Direction) : List Shape → Extent → Option Extent
  | [], e => some e
  | s :: rest, e =>
    match direction with
    | .forward => (grow? .forward s e).bind fun e => growInOrder? .forward rest e
    | .backward => (growInOrder? .backward rest e).bind fun e => grow? .backward s e

/-- Grow an extent by the branches of a choice, from a position on.  The states that open and close
the choice come after the second branch. -/
def growChoice? (direction : Direction) : List Shape → (position : Nat) → Extent → Option Extent
  | [], _, e => some e
  | s :: rest, position, e =>
    match grow? direction s e with
    | none => none
    | some e =>
      growChoice? direction rest (position + 1) (if position = 1 then e.add 2 0 else e)

end

mutual

/-- Whether the place where a shape is entered, in a direction, has to satisfy an assertion, as the
parts before the first text show. -/
def isEnteredAt (a : Assertion) (direction : Direction) : Shape → Bool
  | .assertion b => a = b
  | .capture body => body.isEnteredAt a direction
  | .repeated body least _ => 0 < least && body.isEnteredAt a direction
  | .inOrder parts => someEnteredAt a direction parts
  | .anyOf branches => allEnteredAt a direction branches
  | _ => false

/-- Whether one of the parts before the first text is such a shape. -/
def someEnteredAt (a : Assertion) (direction : Direction) : List Shape → Bool
  | [] => false
  | s :: rest =>
    match direction with
    | .forward => s.isEnteredAt a .forward || (s.isBlind && someEnteredAt a .forward rest)
    | .backward => someEnteredAt a .backward rest || (areBlind rest && s.isEnteredAt a .backward)

/-- Whether all branches are such shapes. -/
def allEnteredAt (a : Assertion) (direction : Direction) : List Shape → Bool
  | [] => true
  | s :: rest => s.isEnteredAt a direction && allEnteredAt a direction rest

end

/-- Whether reading a shape in a direction has to begin at an end of the text. -/
def isAnchored (s : Shape) : Direction → Bool
  | .forward => s.isEnteredAt .textStart .forward
  | .backward => s.isEnteredAt .textEnd .backward

/-- Whether the automaton of a direction is within the limit.  Where a match may start anywhere,
further states read on to its start. -/
def fits (s : Shape) (direction : Direction) : Bool :=
  let start := if s.isAnchored direction then Extent.zero.add 1 0 else Extent.zero.add 3 16
  ((grow? direction (.capture s) start).bind fun e => (e.add 1 0).bounded?).isSome

/-- A bound on the memory of the states that read one character of a set. -/
def setBound (set : CodeSet) : Nat :=
  if set.isAscii then 64 + 8 * set.ranges.length
  else set.byteRanges.foldl (fun bound product => bound + 4 + 40 * product.length) 64

mutual

/-- A bound on the memory of the states of a shape. -/
def costBound : Shape → Nat
  | .empty => 32
  | .text cs => 80 * (cs.flatMap utf8Bytes).length
  | .oneOf set => setBound set
  | .assertion _ => 32
  | .capture body => 64 + body.costBound
  | .repeated body least most =>
    max (max least 1) (most.getD 1) * (body.costBound + 40) + 128
  | .inOrder parts => costBoundOfAll parts
  | .anyOf branches => 64 + costBoundOfAll branches

/-- A bound on the memory of the states of some shapes. -/
def costBoundOfAll : List Shape → Nat
  | [] => 0
  | s :: rest => 4 + s.costBound + costBoundOfAll rest

end

end Shape

namespace Pattern

/-- Whether both automata of a pattern are within the limit. -/
def isWithinLimit (p : Pattern) : Bool :=
  let shape := p.shape
  shape.costBound + 256 ≤ Extent.limit || (shape.fits .forward && shape.fits .backward)

/-- Read a pattern that is within the limit. -/
def ofText? (text : List Char) : Option Pattern := do
  let written ← Written.ofText? text
  let (p, _) ← Switches.initial.resolve? written
  if p.isWithinLimit then some p else none

end Pattern

end GovernedExpr
