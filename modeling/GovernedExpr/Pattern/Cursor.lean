import GovernedExpr.Pattern.Written
import GovernedExpr.Text.Numeral

/-!
# Reading the small parts of a pattern

The readers of this module take the characters that are left of a pattern, and give what they
read together with the characters after it, or nothing where the text is malformed.

* `skipIgnored` passes over blanks and comments where these are ignored;
* `bounded?` reads the bounds of a counted repetition;
* `flagChange?` reads switches up to the colon or parenthesis that ends them;
* `escape?` reads what follows a backslash: a character, a condition or a class;
* `asciiClass?` reads a named class of ASCII characters.
-/

namespace GovernedExpr.Reading

open Text

mutual

/-- Pass over blanks and comments, which run from `#` to the end of the line. -/
def skipBlanks : List Char → List Char
  | [] => []
  | c :: rest =>
    if isBlank c then skipBlanks rest else if c = '#' then skipComment rest else c :: rest

/-- Pass over the rest of a comment, and what is ignored after it. -/
def skipComment : List Char → List Char
  | [] => []
  | c :: rest => if c = '\n' then skipBlanks rest else skipComment rest

end

/-- Pass over what is ignored: nothing, or blanks and comments. -/
def skipIgnored (extended : Bool) (cs : List Char) : List Char :=
  if extended then skipBlanks cs else cs

theorem length_skipBlanks_le (cs : List Char) :
    (skipBlanks cs).length ≤ cs.length ∧ (skipComment cs).length ≤ cs.length := by
  induction cs with
  | nil => simp [skipBlanks, skipComment]
  | cons c rest ih =>
    constructor
    · simp only [skipBlanks]
      split
      · simp only [List.length_cons]; omega
      · split
        · simp only [List.length_cons]; omega
        · exact Nat.le_refl _
    · simp only [skipComment]
      split <;> simp only [List.length_cons] <;> omega

theorem length_skipIgnored_le (extended : Bool) (cs : List Char) :
    (skipIgnored extended cs).length ≤ cs.length := by
  unfold skipIgnored
  split
  · exact (length_skipBlanks_le cs).1
  · exact Nat.le_refl _

/-- The longest run of characters that a test accepts, when what is ignored may stand after each
of them, and the characters after the run. -/
def runOf (extended : Bool) (test : Char → Bool) : List Char → List Char × List Char
  | [] => ([], [])
  | c :: rest =>
    if test c then
      let (run, after) := runOf extended test (skipIgnored extended rest)
      (c :: run, after)
    else ([], c :: rest)
  termination_by cs => cs.length
  decreasing_by
    have := length_skipIgnored_le extended rest
    simp only [List.length_cons]
    omega

/-- Whether a character is a hexadecimal digit. -/
def isHexDigit (c : Char) : Bool :=
  ('0' ≤ c && c ≤ '9') || ('a' ≤ c && c ≤ 'f') || ('A' ≤ c && c ≤ 'F')

/-- The value of a hexadecimal digit. -/
def hexValue (c : Char) : Nat :=
  if c ≤ '9' then c.toNat - '0'.toNat
  else if c ≤ 'F' then c.toNat - 'A'.toNat + 10
  else c.toNat - 'a'.toNat + 10

/-- The character whose code point is written in hexadecimal digits. -/
def charOfHex? (digits : List Char) : Option Char :=
  let code := digits.foldl (fun n c => n * 16 + hexValue c) 0
  if h : code.isValidChar then some (Char.ofNatAux code h) else none

/-! ### Repetition counts -/

/-- The greatest count of a repetition. -/
def greatestCount : Nat := 4294967295

/-- A decimal count, with blanks allowed around it. -/
def count? (extended : Bool) (cs : List Char) : Option (Nat × List Char) :=
  let (digits, rest) := runOf extended (fun c => '0' ≤ c && c ≤ '9') (cs.dropWhile isBlank)
  let (_, rest) := runOf extended isBlank rest
  match natural? digits with
  | some n => if n ≤ greatestCount then some (n, rest) else none
  | none => none

/-- The bounds of a counted repetition, after its opening brace. -/
def bounded? (extended : Bool) (cs : List Char) : Option ((Nat × Option Nat) × List Char) := do
  let (least, rest) ← count? extended (skipIgnored extended cs)
  match rest with
  | '}' :: rest => some ((least, some least), skipIgnored extended rest)
  | ',' :: rest =>
    match skipIgnored extended rest with
    | '}' :: rest => some ((least, none), skipIgnored extended rest)
    | rest =>
      let (most, rest) ← count? extended rest
      match rest with
      | '}' :: rest =>
        if least ≤ most then some ((least, some most), skipIgnored extended rest) else none
      | _ => none
  | _ => none

/-! ### Switches -/

/-- Read switches up to a colon or a closing parenthesis, which is given back.  No switch may be
named twice, and a minus sign, which stands at most once, has to be followed by a switch. -/
def flagsFrom? (change : FlagChange) (negated dangling : Bool) :
    List Char → Option (FlagChange × Char × List Char)
  | [] => none
  | c :: rest =>
    if c = ':' ∨ c = ')' then if dangling then none else some (change, c, rest)
    else if c = '-' then if negated then none else flagsFrom? change true true rest
    else
      match Flag.ofChar? c with
      | none => none
      | some flag =>
        if change.on.contains flag || change.off.contains flag then none
        else if negated then flagsFrom? { change with off := flag :: change.off } true false rest
        else flagsFrom? { change with on := flag :: change.on } false false rest

/-- Read switches up to the character that ends them. -/
def flagChange? (cs : List Char) : Option (FlagChange × Char × List Char) :=
  flagsFrom? .none false false cs

/-! ### Escapes -/

/-- What a single escape or character stands for. -/
inductive Primitive
  | literal (l : Literal)
  | dot
  | assertion (a : WrittenAssertion)
  | named (negated : Bool) (c : NamedClass)

/-- The characters with a meaning of their own in patterns. -/
def isMeta (c : Char) : Bool :=
  "\\.+*?()|[]\x7b\x7d^$#&-~".toList.contains c

/-- Characters that stand for themselves after a backslash: those with a meaning of their own, and
everything of ASCII but letters, digits and angle brackets. -/
def isEscapable (c : Char) : Bool :=
  isMeta c ||
    (c.toNat < 0x80 && !c.isAlphanum && c ≠ '<' && c ≠ '>')

/-- A character given by exactly so many hexadecimal digits. -/
def hexDigits? (extended : Bool) : (count : Nat) → List Char → List Char →
    Option (Char × List Char)
  | 0, seen, rest => (charOfHex? seen.reverse).map fun c => (c, rest)
  | n + 1, seen, c :: rest =>
    if isHexDigit c then hexDigits? extended n (c :: seen) (skipIgnored extended rest) else none
  | _ + 1, _, [] => none

/-- A character given by hexadecimal digits: in braces, or so many as the letter asks for. -/
def hexEscape? (extended : Bool) (letter : Char) (cs : List Char) :
    Option (Literal × List Char) :=
  match skipIgnored extended cs with
  | '\x7b' :: rest =>
    let (digits, rest) := runOf extended isHexDigit (skipIgnored extended rest)
    match rest with
    | '\x7d' :: rest =>
      if digits.isEmpty then none
      else (charOfHex? digits).map fun c => (⟨c, false⟩, skipIgnored extended rest)
    | _ => none
  | rest =>
    let count := if letter = 'x' then 2 else if letter = 'u' then 4 else 8
    (hexDigits? extended count [] rest).map fun (c, rest) => (⟨c, letter = 'x'⟩, rest)

/-- Cut a text at the first place where another text stands. -/
def cutAt? (mark : List Char) : List Char → Option (List Char × List Char)
  | [] => none
  | c :: rest =>
    if mark.isPrefixOf (c :: rest) then some ([], (c :: rest).drop mark.length)
    else (cutAt? mark rest).map fun (before, after) => (c :: before, after)

/-- A class given by a property: one letter, or a name in braces, with a value where a name and
a value are separated by `!=`, `:` or `=`. -/
def propertyEscape? (extended negated : Bool) (cs : List Char) :
    Option (Primitive × List Char) :=
  match skipIgnored extended cs with
  | [] => none
  | '\x7b' :: rest =>
    let (content, rest) := runOf extended (fun c => c ≠ '\x7d') (skipIgnored extended rest)
    match rest with
    | '\x7d' :: rest =>
      match cutAt? ['!', '='] content with
      | some (name, value) => some (.named (!negated) (.propertyValue name value), rest)
      | none =>
        match cutAt? [':'] content with
        | some (name, value) => some (.named negated (.propertyValue name value), rest)
        | none =>
          match cutAt? ['='] content with
          | some (name, value) => some (.named negated (.propertyValue name value), rest)
          | none => some (.named negated (.property content), rest)
    | _ => none
  | c :: rest =>
    if c = '\\' then none
    else some (.named negated (.property [c]), skipIgnored extended rest)

/-- The condition on words with a name in braces. -/
def wordEdgeNamed? (name : List Char) : Option WordEdge :=
  if name = "start".toList then some .starts
  else if name = "end".toList then some .ends
  else if name = "start-half".toList then some .startsHalf
  else if name = "end-half".toList then some .endsHalf
  else none

/-- What follows `\b`: a name in braces, if the brace opens one, narrows the condition. -/
def wordEdge? (extended : Bool) (cs : List Char) : Option (WordEdge × List Char) :=
  let isNameChar (c : Char) : Bool := c.isAlpha || c = '-'
  match cs with
  | '\x7b' :: rest =>
    match skipIgnored extended rest with
    | [] => none
    | c :: tail =>
      if isNameChar c then
        let (name, rest) := runOf extended isNameChar (c :: tail)
        match rest with
        | '\x7d' :: rest => (wordEdgeNamed? name).map fun edge => (edge, rest)
        | _ => none
      else some (.boundary, cs)
  | _ => some (.boundary, cs)

/-- The control character that a letter stands for after a backslash. -/
def controlNamed? : Char → Option Char
  | 'a' => some '\x07'
  | 'f' => some '\x0c'
  | 't' => some '\t'
  | 'n' => some '\n'
  | 'r' => some '\r'
  | 'v' => some '\x0b'
  | _ => none

/-- What follows a backslash. -/
def escape? (extended : Bool) : List Char → Option (Primitive × List Char)
  | [] => none
  | c :: rest =>
    match c with
    | 'x' | 'u' | 'U' => (hexEscape? extended c rest).map fun (l, rest) => (.literal l, rest)
    | 'p' => propertyEscape? extended false rest
    | 'P' => propertyEscape? extended true rest
    | 'd' => some (.named false (.letter .digit), rest)
    | 'D' => some (.named true (.letter .digit), rest)
    | 's' => some (.named false (.letter .blank), rest)
    | 'S' => some (.named true (.letter .blank), rest)
    | 'w' => some (.named false (.letter .word), rest)
    | 'W' => some (.named true (.letter .word), rest)
    | 'A' => some (.assertion .textStart, rest)
    | 'z' => some (.assertion .textEnd, rest)
    | 'b' => (wordEdge? extended rest).map fun (edge, rest) => (.assertion (.word edge), rest)
    | 'B' => some (.assertion (.word .interior), rest)
    | '<' => some (.assertion (.word .starts), rest)
    | '>' => some (.assertion (.word .ends), rest)
    | c =>
      if isEscapable c then some (.literal ⟨c, false⟩, rest)
      else (controlNamed? c).map fun control => (.literal ⟨control, false⟩, rest)

/-- A single character or escape outside of brackets. -/
def primitive? (extended : Bool) : List Char → Option (Primitive × List Char)
  | [] => none
  | '\\' :: rest => escape? extended rest
  | '.' :: rest => some (.dot, rest)
  | '^' :: rest => some (.assertion .lineStart, rest)
  | '$' :: rest => some (.assertion .lineEnd, rest)
  | c :: rest => some (.literal ⟨c, false⟩, rest)

/-! ### Named classes of ASCII -/

/-- The class with a name. -/
def asciiClassNamed? (name : String) : Option AsciiClass :=
  [("alnum", AsciiClass.alnum), ("alpha", .alpha), ("ascii", .ascii), ("blank", .blank),
    ("cntrl", .cntrl), ("digit", .digit), ("graph", .graph), ("lower", .lower),
    ("print", .print), ("punct", .punct), ("space", .space), ("upper", .upper),
    ("word", .word), ("xdigit", .xdigit)].lookup name

/-- A class `[:name:]` or `[:^name:]`; anything else is left for other readers. -/
def asciiClass? : List Char → Option (ClassItem × List Char)
  | '[' :: ':' :: rest =>
    let (negated, rest) :=
      match rest with
      | '^' :: rest => (true, rest)
      | rest => (false, rest)
    let name := rest.takeWhile (· ≠ ':')
    match rest.dropWhile (· ≠ ':') with
    | ':' :: ']' :: rest =>
      (asciiClassNamed? (String.ofList name)).map fun c => (.named negated (.ascii c), rest)
    | _ => none
  | _ => none

end GovernedExpr.Reading
