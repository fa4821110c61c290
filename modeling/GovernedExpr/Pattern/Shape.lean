import GovernedExpr.Pattern.Basic
import GovernedExpr.Text.ByteRange

/-!
# The shape of a pattern

Patterns that are written in different ways may have one shape.  In a shape, sequences and choices
hold no member of their own kind, characters that follow one another are one text, a choice between
characters is a set of characters, and what all branches of a choice start with stands in front of
the choice.  Shapes match what their patterns match; the automaton of a pattern follows its shape.

* `Shape` is the type of shapes;
* `Shape.sequence`, `Shape.choice` and `Shape.repetition` put shapes together;
* `Pattern.shape` is the shape of a pattern.
-/

namespace GovernedExpr

open Text

/-- The shape of a pattern. -/
inductive Shape
  | empty
  /-- Characters one after the other. -/
  | text (chars : List Nat)
  /-- One character of a set. -/
  | oneOf (set : CodeSet)
  | assertion (a : Assertion)
  /-- A group that captures what it matches. -/
  | capture (body : Shape)
  | repeated (body : Shape) (least : Nat) (most : Option Nat)
  | inOrder (parts : List Shape)
  | anyOf (branches : List Shape)

namespace Shape

/-- One character of a set: a text, if the set has one member. -/
def ofSet (set : CodeSet) : Shape :=
  match set.member? with
  | some c => .text [c]
  | none => .oneOf set

/-- The set of a shape that matches single characters. -/
def set? : Shape → Option CodeSet
  | .oneOf set => some set
  | .text [c] => some (.single c)
  | _ => none

/-- The characters of a text. -/
def text? : Shape → Option (List Nat)
  | .text cs => some cs
  | _ => none

/-- The parts of a sequence. -/
def parts? : Shape → Option (List Shape)
  | .inOrder parts => some parts
  | _ => none

mutual

/-- Whether a shape matches nothing but the empty text. -/
def isBlind : Shape → Bool
  | .empty => true
  | .text _ => false
  | .oneOf _ => false
  | .assertion _ => true
  | .capture body => body.isBlind
  | .repeated body _ _ => body.isBlind
  | .inOrder parts => areBlind parts
  | .anyOf branches => areBlind branches

/-- Whether shapes match nothing but the empty text. -/
def areBlind : List Shape → Bool
  | [] => true
  | s :: rest => s.isBlind && areBlind rest

end

mutual

/-- Whether two shapes are equal.  A group that captures is equal to no other group. -/
def equals : Shape → Shape → Bool
  | .empty, .empty => true
  | .text cs, .text ds => cs = ds
  | .oneOf set, .oneOf other => set = other
  | .assertion a, .assertion b => a = b
  | .repeated s least most, .repeated t least' most' =>
    least = least' && most = most' && s.equals t
  | .inOrder ss, .inOrder ts => equalAll ss ts
  | .anyOf ss, .anyOf ts => equalAll ss ts
  | _, _ => false

/-- Whether two lists of shapes are equal. -/
def equalAll : List Shape → List Shape → Bool
  | [], [] => true
  | s :: ss, t :: ts => s.equals t && equalAll ss ts
  | _, _ => false

end

mutual

/-- The number of shapes of which a shape is made. -/
def size : Shape → Nat
  | .empty => 1
  | .text _ => 1
  | .oneOf _ => 1
  | .assertion _ => 1
  | .capture body => 1 + body.size
  | .repeated body _ _ => 1 + body.size
  | .inOrder parts => 1 + sizeOfAll parts
  | .anyOf branches => 1 + sizeOfAll branches

/-- The number of shapes of which some shapes are made. -/
def sizeOfAll : List Shape → Nat
  | [] => 0
  | s :: rest => s.size + sizeOfAll rest

end

/-! ### Putting shapes together -/

/-- Put a shape in front of parts: a text joins the text that follows it. -/
def before : Shape → List Shape → List Shape
  | .empty, parts => parts
  | .text cs, .text ds :: parts => .text (cs ++ ds) :: parts
  | s, parts => s :: parts

/-- Shapes one after the other. -/
def sequence (shapes : List Shape) : Shape :=
  let parts := shapes.flatMap fun s => s.parts?.getD [s]
  match parts.foldr before [] with
  | [] => .empty
  | [s] => s
  | parts => .inOrder parts

/-- A repetition.  What matches nothing but the empty text is repeated at most once. -/
def repetition (body : Shape) (least : Nat) (most : Option Nat) : Shape :=
  let (least, most) :=
    if body.isBlind then (min least 1, some (most.elim 1 (min · 1))) else (least, most)
  if most = some 0 then .empty
  else if least = 1 ∧ most = some 1 then body
  else .repeated body least most

/-- The branches of a choice; another shape is the only branch of itself. -/
def branches : Shape → List Shape
  | .anyOf branches => branches
  | s => [s]

/-- What two sequences start with in common. -/
def commonStart : List Shape → List Shape → List Shape
  | s :: ss, t :: ts => if s.equals t then s :: commonStart ss ts else []
  | _, _ => []

/-- What all branches start with, and what is left of each branch, if all branches are sequences
that start alike. -/
def split? (branches : List Shape) : Option (List Shape × List Shape) :=
  match branches.mapM parts? with
  | some (first :: rest) =>
    let start := rest.foldl commonStart first
    if start.isEmpty then none
    else some (start, (first :: rest).map fun parts => sequence (parts.drop start.length))
  | _ => none

/-- A choice, in which common starts are split off at most so many times. -/
def choiceWithin : (splits : Nat) → List Shape → Shape
  | 0, shapes => .anyOf shapes
  | splits + 1, shapes =>
    match shapes.flatMap branches with
    | [] => .oneOf .empty
    | [s] => s
    | shapes =>
      match shapes.mapM set? with
      | some sets => ofSet (sets.foldl CodeSet.union .empty)
      | none =>
        match split? shapes with
        | some (start, rest) => sequence (start ++ [choiceWithin splits rest])
        | none => .anyOf shapes

/-- A choice.  Each split takes at least one shape off the first branch. -/
def choice : List Shape → Shape
  | [s] => s
  | shapes => choiceWithin (sizeOfAll shapes + 1) shapes

end Shape

namespace Pattern

/-- The shapes of the branches of a pattern. -/
def branchShapes : Pattern → List Shape
  | .empty => [.empty]
  | .chars set => [Shape.ofSet set]
  | .assertion a => [.assertion a]
  | .sequence first second =>
    [Shape.sequence [Shape.choice first.branchShapes, Shape.choice second.branchShapes]]
  | .either first second => first.branchShapes ++ second.branchShapes
  | .repeated body least most => [Shape.repetition (Shape.choice body.branchShapes) least most]
  | .group captures body =>
    let shape := Shape.choice body.branchShapes
    [if captures then .capture shape else shape]

/-- The shape of a pattern. -/
def shape (p : Pattern) : Shape :=
  Shape.choice p.branchShapes

end Pattern

end GovernedExpr
