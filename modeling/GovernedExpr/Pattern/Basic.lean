import GovernedExpr.Unicode.Property

/-!
# Patterns and the texts they match

A `Pattern` describes stretches of a text.  It is matched in all ways at once: the places between
the characters of a text carry marks, and a pattern carries a set of marked places to the places
where its matches from there end.

* `Assertion` is a condition on a place;
* `Pattern` is the type of patterns;
* `Pattern.reach` carries marks through a pattern;
* `Pattern.isMatch` tells whether some stretch of a text is matched.
-/

namespace GovernedExpr

open Text

/-- A condition on how a place divides words. -/
inductive WordEdge
  /-- One side belongs to a word, the other does not. -/
  | boundary
  /-- Both sides belong to a word, or neither does. -/
  | interior
  /-- A word starts here. -/
  | starts
  /-- A word ends here. -/
  | ends
  /-- No word character stands before. -/
  | startsHalf
  /-- No word character stands after. -/
  | endsHalf
  deriving DecidableEq

/-- A condition on a place of a text. -/
inductive Assertion
  | textStart
  | textEnd
  /-- The start of the text or of a line; with `true`, lines may also end in a carriage return. -/
  | lineStart (carriageReturn : Bool)
  /-- The end of the text or of a line. -/
  | lineEnd (carriageReturn : Bool)
  /-- A condition on the characters of the given set as the characters of words. -/
  | word (edge : WordEdge) (members : CodeSet)
  deriving DecidableEq

/-- A place of a text, by the characters on its two sides. -/
structure Place where
  before : Option Char
  after : Option Char
  deriving DecidableEq

/-- The places of a text that follows a character. -/
def placesAfter (before : Option Char) : List Char → List Place
  | [] => [⟨before, none⟩]
  | c :: rest => ⟨before, some c⟩ :: placesAfter (some c) rest

/-- The places of a text, from its start to its end. -/
def places (text : List Char) : List Place :=
  placesAfter none text

@[simp] theorem length_placesAfter (before : Option Char) (text : List Char) :
    (placesAfter before text).length = text.length + 1 := by
  induction text generalizing before with
  | nil => rfl
  | cons c rest ih => simp [placesAfter, ih]

/-- Whether words are divided at a place as asked, given what stands on its sides. -/
def WordEdge.holds : WordEdge → (before after : Bool) → Bool
  | boundary, before, after => before != after
  | interior, before, after => before == after
  | starts, before, after => !before && after
  | ends, before, after => before && !after
  | startsHalf, before, _ => !before
  | endsHalf, _, after => !after

/-- Whether a place satisfies a condition. -/
def Assertion.holds : Assertion → Place → Bool
  | textStart, p => p.before.isNone
  | textEnd, p => p.after.isNone
  | lineStart false, p => p.before.isNone || p.before == some '\n'
  | lineStart true, p =>
    p.before.isNone || p.before == some '\n' || (p.before == some '\r' && p.after != some '\n')
  | lineEnd false, p => p.after.isNone || p.after == some '\n'
  | lineEnd true, p =>
    p.after.isNone || p.after == some '\r' || (p.after == some '\n' && p.before != some '\r')
  | word edge members, p => edge.holds (p.before.any members.has) (p.after.any members.has)

/-- A description of stretches of text. -/
inductive Pattern
  | empty
  | chars (set : CodeSet)
  | assertion (a : Assertion)
  | sequence (first second : Pattern)
  | either (first second : Pattern)
  | repeated (body : Pattern) (least : Nat) (most : Option Nat)
  /-- A group matches what its body matches, and may capture it. -/
  | group (captures : Bool) (body : Pattern)
  deriving DecidableEq, Inhabited

/-- For each place of a text, whether it is marked. -/
abbrev Marks := List Bool

namespace Marks

/-- The places marked in either. -/
def join (m k : Marks) : Marks :=
  List.zipWith or m k

/-- Carry each mark over one character of a set. -/
def advance (set : CodeSet) (text : List Char) (m : Marks) : Marks :=
  false :: List.zipWith (fun c marked => marked && set.has c) text m

/-- Keep the marks at places that satisfy a condition. -/
def keep (a : Assertion) (text : List Char) (m : Marks) : Marks :=
  List.zipWith (fun p marked => marked && a.holds p) (places text) m

/-- Take a step a number of times; once no mark is left, none comes back. -/
def iterate (step : Marks → Marks) : Nat → Marks → Marks
  | 0, m => m
  | n + 1, m => if m.any id then iterate step n (step m) else m

/-- Add the marks of up to a number of further steps. -/
def saturate (step : Marks → Marks) : Nat → Marks → Marks
  | 0, m => m
  | n + 1, m =>
    let grown := m.join (step m)
    if grown = m then m else saturate step n grown

end Marks

namespace Pattern

/-- The places where matches that start at marked places end.  A text of `n` characters admits
at most `n` steps that move, so more than `n + 1` repetitions reach nothing new. -/
def reach (text : List Char) : Pattern → Marks → Marks
  | .empty, m => m
  | .chars set, m => m.advance set text
  | .assertion a, m => m.keep a text
  | .sequence first second, m => second.reach text (first.reach text m)
  | .either first second, m => (first.reach text m).join (second.reach text m)
  | .repeated body least most, m =>
    let bound := text.length + 1
    let reached := Marks.iterate (body.reach text) (min least bound) m
    match most with
    | none => Marks.saturate (body.reach text) bound reached
    | some most => Marks.saturate (body.reach text) (min (most - least) bound) reached
  | .group _ body, m => body.reach text m

/-- Whether some stretch of the text is matched. -/
def isMatch (p : Pattern) (text : List Char) : Bool :=
  (p.reach text (List.replicate (text.length + 1) true)).any id

end Pattern

end GovernedExpr
