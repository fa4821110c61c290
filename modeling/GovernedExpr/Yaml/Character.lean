/-!
# Characters of documents

* `characters?` lists the characters of a document from those of its text: none is a control
  character, and every line ends in the same way;
* `isBreak` and `isGap` tell the characters that end a line and those that part words in a line;
* `Cursor` is a place in a document, with the line and the column in which it stands.
-/

namespace GovernedExpr.Yaml

/-- Whether a character may stand in a document. -/
def isAllowed (c : Char) : Bool :=
  let n := c.toNat
  n = 0x9 || n = 0xA || n = 0xD || (0x20 ≤ n && n ≤ 0x7E) || n = 0x85 ||
    (0xA0 ≤ n && n ≤ 0xD7FF) || (0xE000 ≤ n && n ≤ 0xFFFD) || 0x10000 ≤ n

/-- The character that stands for a character in a document, after the character before it: a
carriage return and a next line count as a line feed, and a line feed that follows a carriage
return belongs to its break. -/
def unified? (c previous : Char) : Option Char :=
  if c = '\n' && previous = '\r' then none
  else if c = '\r' || c = '\u0085' then some '\n'
  else some c

/-- The characters of a document, if it has no others than those that are allowed. -/
def characters? (cs : List Char) : Option (List Char) :=
  if cs.all isAllowed then
    some ((cs.zip ('\n' :: cs)).filterMap fun (c, previous) => unified? c previous)
  else none

/-- Whether a character ends a line. -/
def isBreak (c : Char) : Bool := c = '\n' || c = '\u2028' || c = '\u2029'

/-- Whether a character parts words in a line. -/
def isGap (c : Char) : Bool := c = ' ' || c = '\t'

/-- Whether no word goes on with these characters. -/
def endsWord : List Char → Bool
  | [] => true
  | c :: _ => isGap c || isBreak c

/-- Whether characters begin with one of some characters. -/
def beginsWith (marks : List Char) : List Char → Bool
  | [] => false
  | c :: _ => marks.contains c

/-- Whether a character may stand in the name of an anchor, of a handle or of a directive. -/
def isNameCharacter (c : Char) : Bool := c.isAlphanum || c = '_' || c = '-'

/-! ### Places -/

/-- A place in a document: its line, its column and what follows. -/
structure Cursor where
  line : Nat
  column : Nat
  rest : List Char

namespace Cursor

/-- The first place of a document. -/
def start (cs : List Char) : Cursor :=
  ⟨0, 0, cs⟩

/-- The place some characters further in the same line. -/
def skip (c : Cursor) (n : Nat) : Cursor :=
  ⟨c.line, c.column + n, c.rest.drop n⟩

/-- The place in the same line where the given characters follow. -/
def upTo (c : Cursor) (rest : List Char) : Cursor :=
  ⟨c.line, c.column + (c.rest.length - rest.length), rest⟩

/-- The first place of the next line, where the given characters follow. -/
def newLine (c : Cursor) (rest : List Char) : Cursor :=
  ⟨c.line + 1, 0, rest⟩

/-- The number of octets from a place to a later place of the same line. -/
def octetsTo (c later : Cursor) : Nat :=
  (c.rest.take (later.column - c.column)).foldl (fun total x => total + x.utf8Size) 0

/-- Whether a line begins here that starts or ends a document. -/
def atMark (c : Cursor) : Bool :=
  c.column = 0 &&
    match c.rest with
    | '-' :: '-' :: '-' :: rest => endsWord rest
    | '.' :: '.' :: '.' :: rest => endsWord rest
    | _ => false

/-- The place after the rest of a line that holds nothing but a comment. -/
def restOfLine? (c : Cursor) : Option Cursor :=
  let rest := c.rest.dropWhile isGap
  let rest := if beginsWith ['#'] rest then rest.dropWhile fun x => !isBreak x else rest
  match rest with
  | [] => some (c.upTo [])
  | x :: rest => if isBreak x then some (c.newLine rest) else none

end Cursor

end GovernedExpr.Yaml
