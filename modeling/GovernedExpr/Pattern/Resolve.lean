import GovernedExpr.Pattern.Reader
import GovernedExpr.Unicode.Query
import GovernedExpr.Unicode.Folding

/-!
# From a written pattern to a pattern

Switches decide what a written pattern means: whether case matters, what the dot and the line
anchors stand for, and whether classes are classes of all characters or of ASCII.  A change of
switches holds to the end of the group in which it stands.

* `Switches` are the switches that matter for matching;
* `Switches.classOf?` finds the set of a class;
* `Switches.resolve?` finds the pattern of a written one.  A part that would match something
  other than whole characters, and a property that is not known, has none.
-/

namespace GovernedExpr

open Text

/-- The switches that matter for matching. -/
structure Switches where
  ignoreCase : Bool
  multiLine : Bool
  dotMatchesNewline : Bool
  carriageReturn : Bool
  unicode : Bool
  deriving DecidableEq

/-- The characters of a class of ASCII. -/
def AsciiClass.set : AsciiClass → CodeSet
  | alnum => .ofRanges [(0x30, 0x39), (0x41, 0x5A), (0x61, 0x7A)]
  | alpha => .ofRanges [(0x41, 0x5A), (0x61, 0x7A)]
  | ascii => .ofRanges [(0x00, 0x7F)]
  | blank => .ofRanges [(0x09, 0x09), (0x20, 0x20)]
  | cntrl => .ofRanges [(0x00, 0x1F), (0x7F, 0x7F)]
  | digit => .ofRanges [(0x30, 0x39)]
  | graph => .ofRanges [(0x21, 0x7E)]
  | lower => .ofRanges [(0x61, 0x7A)]
  | print => .ofRanges [(0x20, 0x7E)]
  | punct => .ofRanges [(0x21, 0x2F), (0x3A, 0x40), (0x5B, 0x60), (0x7B, 0x7E)]
  | space => .ofRanges [(0x09, 0x0D), (0x20, 0x20)]
  | upper => .ofRanges [(0x41, 0x5A)]
  | word => .ofRanges [(0x30, 0x39), (0x41, 0x5A), (0x5F, 0x5F), (0x61, 0x7A)]
  | xdigit => .ofRanges [(0x30, 0x39), (0x41, 0x46), (0x61, 0x66)]

/-- The characters of a class with a letter: of all characters, or of ASCII. -/
def LetterClass.set (unicode : Bool) : LetterClass → CodeSet
  | digit => if unicode then Unicode.Category.decimalDigit else AsciiClass.digit.set
  | blank => if unicode then Unicode.Property.whiteSpace else AsciiClass.space.set
  | word => if unicode then Unicode.wordCharacter else AsciiClass.word.set

namespace Switches

/-- The switches of a pattern that says nothing about them. -/
def initial : Switches := ⟨false, false, false, false, true⟩

/-- The switches after a change. -/
def change (s : Switches) (c : FlagChange) : Switches where
  ignoreCase := c.apply .ignoreCase s.ignoreCase
  multiLine := c.apply .multiLine s.multiLine
  dotMatchesNewline := c.apply .dotMatchesNewline s.dotMatchesNewline
  carriageReturn := c.apply .carriageReturn s.carriageReturn
  unicode := c.apply .unicode s.unicode

/-- The set with the characters that differ from it in case only, if case is ignored. -/
def folded (s : Switches) (set : CodeSet) : CodeSet :=
  if s.ignoreCase then if s.unicode then Unicode.fold set else Unicode.asciiFold set else set

/-- The negation, if asked for.  A class of ASCII has no negation: it would contain parts of
characters. -/
def negated? (s : Switches) (negated : Bool) (set : CodeSet) : Option CodeSet :=
  if negated then if s.unicode then some set.negation else none else some set

/-- The set of a named class. -/
def named? (s : Switches) (negated : Bool) : NamedClass → Option CodeSet
  | .letter c => s.negated? negated (c.set s.unicode)
  | .ascii c => s.negated? negated (s.folded c.set)
  | .property name =>
    if s.unicode then
      (Unicode.propertyNamed? name).bind fun set => s.negated? negated (s.folded set)
    else none
  | .propertyValue name value =>
    if s.unicode then
      (Unicode.propertyValued? name value).bind fun set => s.negated? negated (s.folded set)
    else none

/-- Whether a character may stand in a class: in a class of ASCII, only one of ASCII. -/
def admits (s : Switches) (l : Literal) : Bool :=
  s.unicode || l.char.toNat < 0x80

/-- How sets are combined. -/
def combine : ClassOperation → CodeSet → CodeSet → CodeSet
  | .intersection => CodeSet.inter
  | .difference => CodeSet.diff
  | .symmetricDifference => CodeSet.symmDiff

mutual

/-- The set of the content of a bracketed class. -/
def classOf? (s : Switches) : ClassItem → Option CodeSet
  | .nothing => some .empty
  | .literal l => if s.admits l then some (.single l.char.toNat) else none
  | .range first last =>
    if s.admits first && s.admits last then some (.range first.char.toNat last.char.toNat)
    else none
  | .named negated c => s.named? negated c
  | .bracketed negated content => do
    let set ← s.classOf? content
    s.negated? negated (s.folded set)
  | .union items => s.classOfAll? items
  | .combined operation left right => do
    let left ← s.classOf? left
    let right ← s.classOf? right
    some (combine operation (s.folded left) (s.folded right))

/-- The union of the sets of some items. -/
def classOfAll? (s : Switches) : List ClassItem → Option CodeSet
  | [] => some .empty
  | item :: rest => do
    let set ← s.classOf? item
    let others ← s.classOfAll? rest
    some (others.union set)

end

/-- The pattern of a single character. -/
def literal? (s : Switches) (l : Literal) : Option Pattern :=
  if !s.unicode && l.asByte && 0x80 ≤ l.char.toNat then none
  else some (.chars (s.folded (.single l.char.toNat)))

/-- The pattern of the dot. -/
def dot? (s : Switches) : Option Pattern :=
  if !s.unicode then none
  else if s.dotMatchesNewline then some (.chars .full)
  else if s.carriageReturn then
    some (.chars (CodeSet.ofRanges [(0x0A, 0x0A), (0x0D, 0x0D)]).complement)
  else some (.chars (CodeSet.single 0x0A).complement)

/-- The condition of a written one. -/
def assertionOf (s : Switches) : WrittenAssertion → Assertion
  | .lineStart => if s.multiLine then .lineStart s.carriageReturn else .textStart
  | .lineEnd => if s.multiLine then .lineEnd s.carriageReturn else .textEnd
  | .textStart => .textStart
  | .textEnd => .textEnd
  | .word edge => .word edge (LetterClass.word.set s.unicode)

mutual

/-- The pattern of a written one, and the switches after it. -/
def resolve? (s : Switches) : Written → Option (Pattern × Switches)
  | .empty => some (.empty, s)
  | .flags change => some (.empty, s.change change)
  | .literal l => (s.literal? l).map (·, s)
  | .dot => s.dot?.map (·, s)
  | .assertion a => some (.assertion (s.assertionOf a), s)
  | .named negated c => (s.named? negated c).map fun set => (.chars set, s)
  | .bracketed negated content => do
    let set ← s.classOf? content
    let set ← s.negated? negated (s.folded set)
    some (.chars set, s)
  | .repeated body least most => do
    let (body, s) ← s.resolve? body
    some (.repeated body least most, s)
  | .group captures change body => do
    let (body, _) ← (s.change change).resolve? body
    some (.group captures body, s)
  | .sequence parts => s.resolveSequence? parts
  | .alternation branches => s.resolveChoice? branches

/-- The pattern of parts one after the other. -/
def resolveSequence? (s : Switches) : List Written → Option (Pattern × Switches)
  | [] => some (.empty, s)
  | [part] => s.resolve? part
  | part :: rest => do
    let (first, s) ← s.resolve? part
    let (others, s) ← s.resolveSequence? rest
    some (.sequence first others, s)

/-- The pattern of a choice of branches. -/
def resolveChoice? (s : Switches) : List Written → Option (Pattern × Switches)
  | [] => some (.chars .empty, s)
  | [branch] => s.resolve? branch
  | branch :: rest => do
    let (first, s) ← s.resolve? branch
    let (others, s) ← s.resolveChoice? rest
    some (.either first others, s)

end

end Switches

end GovernedExpr
