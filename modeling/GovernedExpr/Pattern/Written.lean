import GovernedExpr.Pattern.Basic

/-!
# Patterns as they are written

A `Written` pattern is what stands in the text of a pattern, before flags are applied and names of
classes are looked up.

* `Flag` and `FlagChange`: switches, and what a group switches on and off;
* `ClassItem` is the content of a bracketed class;
* `Written` is a pattern as written;
* `Written.depth` is how deep its groups, repetitions, sequences, alternations and classes nest.
-/

namespace GovernedExpr

/-- The switches of a pattern. -/
inductive Flag
  | ignoreCase
  | multiLine
  | dotMatchesNewline
  | swapGreed
  | unicode
  | carriageReturn
  | ignoreBlanks
  deriving DecidableEq

namespace Flag

/-- The switch that a letter stands for. -/
def ofChar? : Char → Option Flag
  | 'i' => some ignoreCase
  | 'm' => some multiLine
  | 's' => some dotMatchesNewline
  | 'U' => some swapGreed
  | 'u' => some unicode
  | 'R' => some carriageReturn
  | 'x' => some ignoreBlanks
  | _ => none

end Flag

/-- The switches that are turned on, and those that are turned off. -/
structure FlagChange where
  on : List Flag
  off : List Flag
  deriving DecidableEq

namespace FlagChange

/-- No switch is turned. -/
def none : FlagChange := ⟨[], []⟩

/-- Whether no switch is turned. -/
def isNone (c : FlagChange) : Bool := c.on.isEmpty && c.off.isEmpty

/-- The position of a switch after the change. -/
def apply (c : FlagChange) (flag : Flag) (before : Bool) : Bool :=
  if c.on.contains flag then true else if c.off.contains flag then false else before

end FlagChange

/-- A character of a pattern.  Two hexadecimal digits after `\x` give it as a byte. -/
structure Literal where
  char : Char
  asByte : Bool
  deriving DecidableEq

/-- The classes with a letter of their own. -/
inductive LetterClass
  | digit
  | blank
  | word
  deriving DecidableEq

/-- The classes of ASCII characters with a name of their own. -/
inductive AsciiClass
  | alnum | alpha | ascii | blank | cntrl | digit | graph | lower | print | punct | space | upper
  | word | xdigit
  deriving DecidableEq

/-- A class of characters that is looked up. -/
inductive NamedClass
  | letter (c : LetterClass)
  | ascii (c : AsciiClass)
  | property (name : List Char)
  | propertyValue (name value : List Char)
  deriving DecidableEq

/-- How two sets inside brackets are combined. -/
inductive ClassOperation
  | intersection
  | difference
  | symmetricDifference
  deriving DecidableEq

/-- The content of a bracketed class. -/
inductive ClassItem
  | nothing
  | literal (l : Literal)
  | range (first last : Literal)
  | named (negated : Bool) (c : NamedClass)
  | bracketed (negated : Bool) (content : ClassItem)
  | union (items : List ClassItem)
  | combined (operation : ClassOperation) (left right : ClassItem)

/-- A condition on a place, as written. -/
inductive WrittenAssertion
  | lineStart
  | lineEnd
  | textStart
  | textEnd
  | word (edge : WordEdge)
  deriving DecidableEq

/-- A pattern as written. -/
inductive Written
  | empty
  | flags (change : FlagChange)
  | literal (l : Literal)
  | dot
  | assertion (a : WrittenAssertion)
  | named (negated : Bool) (c : NamedClass)
  | bracketed (negated : Bool) (content : ClassItem)
  | repeated (body : Written) (least : Nat) (most : Option Nat)
  /-- A group, which may capture what it matches. -/
  | group (captures : Bool) (change : FlagChange) (body : Written)
  | sequence (parts : List Written)
  | alternation (branches : List Written)

mutual

/-- How deep brackets, unions and combinations nest. -/
def ClassItem.depth : ClassItem → Nat
  | .nothing => 0
  | .literal _ => 0
  | .range _ _ => 0
  | .named _ _ => 0
  | .bracketed _ content => 1 + content.depth
  | .union items => 1 + ClassItem.depthOfAll items
  | .combined _ left right => 1 + max left.depth right.depth

/-- The greatest depth of some items. -/
def ClassItem.depthOfAll : List ClassItem → Nat
  | [] => 0
  | item :: rest => max item.depth (ClassItem.depthOfAll rest)

end

mutual

/-- How deep the parts of a pattern nest. -/
def Written.depth : Written → Nat
  | .empty => 0
  | .flags _ => 0
  | .literal _ => 0
  | .dot => 0
  | .assertion _ => 0
  | .named _ _ => 0
  | .bracketed _ content => 1 + content.depth
  | .repeated body _ _ => 1 + body.depth
  | .group _ _ body => 1 + body.depth
  | .sequence parts => 1 + Written.depthOfAll parts
  | .alternation branches => 1 + Written.depthOfAll branches

/-- The greatest depth of some patterns. -/
def Written.depthOfAll : List Written → Nat
  | [] => 0
  | p :: rest => max p.depth (Written.depthOfAll rest)

end

namespace ClassItem

/-- The union of items, which is the item itself where there is only one. -/
def ofItems : List ClassItem → ClassItem
  | [] => .nothing
  | [item] => item
  | items => .union items

end ClassItem

namespace Written

/-- Patterns one after the other; a single pattern stands for itself. -/
def ofParts : List Written → Written
  | [] => .empty
  | [p] => p
  | parts => .sequence parts

/-- A choice of patterns; a single pattern stands for itself. -/
def ofBranches : List Written → Written
  | [] => .empty
  | [p] => p
  | branches => .alternation branches

end Written

end GovernedExpr
