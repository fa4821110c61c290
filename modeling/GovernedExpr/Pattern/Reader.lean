import GovernedExpr.Pattern.ClassReader
import GovernedExpr.Unicode.Recent

/-!
# Reading a pattern

A pattern is a choice of sequences; a sequence consists of groups, classes, characters, escapes
and repetitions of these.

* `Frame` is what waits for the end of a group or for the next branch of a choice;
* `State` is what has been read and what is left to read;
* `State.step?` reads one part, or finds the text malformed;
* `Written.ofText?` reads a whole pattern, and refuses one that nests too deep.
-/

namespace GovernedExpr.Reading

open Text

/-- What waits for more of a pattern. -/
inductive Frame
  /-- The parts in front of a group, the latest first, whether the group captures what it matches,
  its switches, and whether blanks were ignored in front of it. -/
  | group (before : List Written) (captures : Bool) (change : FlagChange) (extended : Bool)
  /-- The branches of a choice that are complete, the latest first. -/
  | choice (branches : List Written)

/-- The state of reading: what is left, whether blanks and comments are ignored, the names of
groups, what waits, and the parts of the present sequence, the latest first. -/
structure State where
  rest : List Char
  extended : Bool
  names : List (List Char)
  frames : List Frame
  parts : List Written

/-- Whether a character may stand in the name of a group. -/
def isNameChar (first : Bool) (c : Char) : Bool :=
  let letter := c = '_' || Unicode.nameLetter.has c
  if first then letter
  else letter || c = '.' || c = '[' || c = ']' || Unicode.nameNumber.has c

/-- Read the name of a group up to its closing bracket. -/
def groupName? (cs : List Char) : Option (List Char × List Char) :=
  let name := cs.takeWhile (· ≠ '>')
  match name, cs.dropWhile (· ≠ '>') with
  | c :: others, '>' :: rest =>
    if isNameChar true c && others.all (isNameChar false) then some (name, rest) else none
  | _, _ => none

/-- Whether an opening parenthesis starts a look at the surroundings, which has no meaning here. -/
def looksAround : List Char → Bool
  | '?' :: '=' :: _ => true
  | '?' :: '!' :: _ => true
  | '?' :: '<' :: '=' :: _ => true
  | '?' :: '<' :: '!' :: _ => true
  | _ => false

namespace State

/-- Start a group. -/
def enter (s : State) (captures : Bool) (change : FlagChange) (rest : List Char) : State :=
  { s with
    rest := rest
    extended := change.apply .ignoreBlanks s.extended
    frames := .group s.parts captures change s.extended :: s.frames
    parts := [] }

/-- Start a group with a name, which no other group has. -/
def enterNamed? (s : State) (cs : List Char) : Option State :=
  match groupName? cs with
  | none => none
  | some (name, rest) =>
    if s.names.contains name then none
    else some ({ s with names := name :: s.names }.enter true .none rest)

/-- Read what follows an opening parenthesis: the start of a group, or switches. -/
def openGroup? (s : State) (cs : List Char) : Option State :=
  let cs := skipIgnored s.extended cs
  if looksAround cs then none
  else
    match cs with
    | '?' :: 'P' :: '<' :: rest => s.enterNamed? rest
    | '?' :: '<' :: rest => s.enterNamed? rest
    | '?' :: rest =>
      match flagChange? rest with
      | none => none
      | some (change, ending, rest) =>
        if ending = ')' then
          if change.isNone then none
          else
            some { s with
              rest := rest
              extended := change.apply .ignoreBlanks s.extended
              parts := .flags change :: s.parts }
        else some (s.enter false change rest)
    | rest => some (s.enter true .none rest)

/-- The pattern of the parts read since the group or the pattern started, and what waits in front
of them. -/
def complete (s : State) : Written × List Frame :=
  let last := Written.ofParts s.parts.reverse
  match s.frames with
  | .choice branches :: frames => (Written.ofBranches (last :: branches).reverse, frames)
  | frames => (last, frames)

/-- End a group. -/
def closeGroup? (s : State) (rest : List Char) : Option State :=
  match s.complete with
  | (body, .group before captures change extended :: frames) =>
    some { s with
      rest := rest
      extended := extended
      frames := frames
      parts := .group captures change body :: before }
  | _ => none

/-- Start the next branch of a choice. -/
def nextBranch (s : State) (rest : List Char) : State :=
  let branch := Written.ofParts s.parts.reverse
  let frames :=
    match s.frames with
    | .choice branches :: frames => .choice (branch :: branches) :: frames
    | frames => .choice [branch] :: frames
  { s with rest := rest, frames := frames, parts := [] }

/-- Repeat the latest part; a question mark after the repetition changes no match. -/
def repeat? (s : State) (least : Nat) (most : Option Nat) (rest : List Char) : Option State :=
  let rest :=
    match rest with
    | '?' :: rest => rest
    | rest => rest
  match s.parts with
  | [] => none
  | .flags _ :: _ => none
  | part :: parts => some { s with rest := rest, parts := .repeated part least most :: parts }

/-- Add a part. -/
def add (s : State) (part : Written) (rest : List Char) : State :=
  { s with rest := rest, parts := part :: s.parts }

end State

/-- The pattern that a character or escape is. -/
def Primitive.written : Primitive → Written
  | .literal l => .literal l
  | .dot => .dot
  | .assertion a => .assertion a
  | .named negated c => .named negated c

namespace State

/-- Read one part, given the characters that are left. -/
def step? (s : State) : List Char → Option State
  | [] => none
  | '(' :: rest => s.openGroup? rest
  | ')' :: rest => s.closeGroup? rest
  | '|' :: rest => some (s.nextBranch rest)
  | '[' :: rest => (bracketed? s.extended rest).map fun (negated, content, rest) =>
      s.add (.bracketed negated content) rest
  | '?' :: rest => s.repeat? 0 (some 1) rest
  | '*' :: rest => s.repeat? 0 none rest
  | '+' :: rest => s.repeat? 1 none rest
  | '\x7b' :: rest =>
    match bounded? s.extended rest with
    | none => none
    | some ((least, most), rest) => s.repeat? least most rest
  | cs => (primitive? s.extended cs).map fun (p, rest) => s.add p.written rest

/-- Read to the end of the text.  Every step reads at least one character, so the number of steps
is bounded by the number of characters. -/
def run? : (steps : Nat) → State → Option Written
  | 0, _ => none
  | steps + 1, s =>
    match skipIgnored s.extended s.rest with
    | [] =>
      match s.complete with
      | (body, []) => some body
      | _ => none
    | cs =>
      match s.step? cs with
      | none => none
      | some s => run? steps s

end State

/-- How deep the parts of a pattern may nest. -/
def greatestDepth : Nat := 250

end GovernedExpr.Reading

namespace GovernedExpr

/-- Read a pattern. -/
def Written.ofText? (text : List Char) : Option Written :=
  match Reading.State.run? (text.length + 1) ⟨text, false, [], [], []⟩ with
  | none => none
  | some p => if p.depth ≤ Reading.greatestDepth then some p else none

end GovernedExpr
