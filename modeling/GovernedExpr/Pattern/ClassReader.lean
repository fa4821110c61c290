import GovernedExpr.Pattern.Cursor

/-!
# Reading a bracketed class

Inside brackets stand characters, ranges, classes and further brackets, one after the other.  The
operators `&&`, `--` and `~~` combine what stands on their two sides; they associate to the left
and bind weaker than standing side by side.

* `ClassFrame` is what waits for the end of a bracket or for the right side of an operator;
* `openBracket?` reads what follows an opening bracket;
* `classItem?` reads a character, an escape or a range;
* `bracketed?` reads a whole class.
-/

namespace GovernedExpr.Reading

open Text

/-- What waits for more of a class: the items in front of an inner bracket, the latest first, or
the left side of an operator. -/
inductive ClassFrame
  | bracket (before : List ClassItem) (negated : Bool)
  | operand (operation : ClassOperation) (left : ClassItem)

/-- Give an operand to the operator that waits for it. -/
def completeOperand (frames : List ClassFrame) (right : ClassItem) :
    List ClassFrame × ClassItem :=
  match frames with
  | .operand operation left :: frames => (frames, .combined operation left right)
  | frames => (frames, right)

/-- The operator at the start of a text, and the text after it. -/
def classOperation? : List Char → Option (ClassOperation × List Char)
  | '&' :: '&' :: rest => some (.intersection, rest)
  | '-' :: '-' :: rest => some (.difference, rest)
  | '~' :: '~' :: rest => some (.symmetricDifference, rest)
  | _ => none

/-- What follows an opening bracket: a caret that negates the class, any number of hyphens, and, in
first place only, a closing bracket that stands for itself.  The items are given latest first. -/
def openBracket? (extended : Bool) (cs : List Char) :
    Option (Bool × List ClassItem × List Char) :=
  let (negated, cs) :=
    match skipIgnored extended cs with
    | '^' :: rest => (true, skipIgnored extended rest)
    | cs => (false, cs)
  let (hyphens, cs) := runOf extended (· = '-') cs
  let items := hyphens.map fun c => ClassItem.literal ⟨c, false⟩
  match items, cs with
  | _, [] => none
  | [], ']' :: rest => some (negated, [.literal ⟨']', false⟩], skipIgnored extended rest)
  | items, cs => some (negated, items, cs)

/-- The character that is next in sight after the present one. -/
def inSight? (extended : Bool) (cs : List Char) : Option Char :=
  let after := cs.tail
  if extended then
    match after.dropWhile isBlank with
    | '#' :: rest => (rest.dropWhile isBlank).head? <|> after.head?
    | c :: _ => some c
    | [] => after.head?
  else after.head?

/-- One character or escape inside brackets. -/
def classPrimitive? (extended : Bool) : List Char → Option (Primitive × List Char)
  | [] => none
  | '\\' :: rest => escape? extended rest
  | c :: rest => some (.literal ⟨c, false⟩, rest)

/-- The item that a character or escape is; conditions on places are none. -/
def Primitive.item? : Primitive → Option ClassItem
  | .literal l => some (.literal l)
  | .named negated c => some (.named negated c)
  | .dot => none
  | .assertion _ => none

/-- The character that may end a range. -/
def Primitive.literal? : Primitive → Option Literal
  | .literal l => some l
  | _ => none

/-- A character, an escape or a range. -/
def classItem? (extended : Bool) (cs : List Char) : Option (ClassItem × List Char) := do
  let (first, rest) ← classPrimitive? extended cs
  match skipIgnored extended rest with
  | [] => none
  | '-' :: rest =>
    let next := inSight? extended ('-' :: rest)
    if next = some ']' ∨ next = some '-' then (first.item?).map fun item => (item, '-' :: rest)
    else
      let (last, rest) ← classPrimitive? extended (skipIgnored extended rest)
      let lo ← first.literal?
      let hi ← last.literal?
      if lo.char ≤ hi.char then some (.range lo hi, rest) else none
  | rest => (first.item?).map fun item => (item, rest)

/-- Read on to the end of the outermost bracket.  Every step reads at least one character, so the
number of steps is bounded by the number of characters. -/
def classSteps? (extended : Bool) : (steps : Nat) → List ClassFrame → List ClassItem →
    List Char → Option (Bool × ClassItem × List Char)
  | 0, _, _, _ => none
  | steps + 1, frames, items, cs =>
    match skipIgnored extended cs with
    | [] => none
    | '[' :: rest =>
      match asciiClass? ('[' :: rest) with
      | some (item, rest) => classSteps? extended steps frames (item :: items) rest
      | none =>
        match openBracket? extended rest with
        | none => none
        | some (negated, inner, rest) =>
          classSteps? extended steps (.bracket items negated :: frames) inner rest
    | ']' :: rest =>
      let (frames, content) := completeOperand frames (.ofItems items.reverse)
      match frames with
      | [.bracket _ negated] => some (negated, content, rest)
      | .bracket before negated :: frames =>
        classSteps? extended steps frames (.bracketed negated content :: before) rest
      | _ => none
    | c :: rest =>
      match classOperation? (c :: rest) with
      | some (operation, rest) =>
        let (frames, left) := completeOperand frames (.ofItems items.reverse)
        classSteps? extended steps (.operand operation left :: frames) [] rest
      | none =>
        match classItem? extended (c :: rest) with
        | none => none
        | some (item, rest) => classSteps? extended steps frames (item :: items) rest

/-- Read a class after its opening bracket: whether it is negated, and its content. -/
def bracketed? (extended : Bool) (cs : List Char) : Option (Bool × ClassItem × List Char) :=
  match openBracket? extended cs with
  | none => none
  | some (negated, items, rest) =>
    classSteps? extended (rest.length + 1) [.bracket [] negated] items rest

end GovernedExpr.Reading
