import GovernedExpr.Pattern.Cursor
import GovernedExpr.Tree.Json

/-!
# The pieces of a JSON text

A JSON text consists of pieces: strings in quotes, the word `null`, and punctuation, with blanks and
line breaks between them as one likes.

* `Json.character?` reads one character of a string, in each of the ways JSON has to write it, and
  `Json.string?` reads a string up to its quote;
* `Json.pieces?` lists the pieces of a text, `Json.unspaced` removes what stands between them;
* `Json.Laid cs ps` says that a text lays out pieces: they stand in it one after the other, in the
  spelling of `Json.Piece.text`, with any blanks around them;
* `Json.Laid.pieces?_eq` and `Json.Laid.unspacedFrom_eq` say what the two make of such a text.
-/

namespace GovernedExpr

namespace Json

open Reading (isHexDigit hexValue)

/-! ### Strings -/

/-- The character that a letter behind a backslash stands for. -/
def unescape? : Char → Option Char
  | '"' => some '"'
  | '\\' => some '\\'
  | '/' => some '/'
  | 'b' => some '\x08'
  | 't' => some '\x09'
  | 'n' => some '\x0a'
  | 'f' => some '\x0c'
  | 'r' => some '\x0d'
  | _ => none

/-- A unit of text in four hexadecimal digits, and what follows it. -/
def unit? : List Char → Option (Nat × List Char)
  | a :: b :: c :: d :: rest =>
    if [a, b, c, d].all isHexDigit then
      some ([a, b, c, d].foldl (fun n digit => n * 16 + hexValue digit) 0, rest)
    else none
  | _ => none

/-- The character that two units of text stand for together. -/
def pair? (high low : Nat) : Option Char :=
  if 0xD800 ≤ high ∧ high < 0xDC00 ∧ 0xDC00 ≤ low ∧ low < 0xE000 then
    some (Char.ofNat (0x10000 + (high - 0xD800) * 0x400 + (low - 0xDC00)))
  else none

/-- The character of a unit of text: it stands for one itself, or with a second unit that is written
behind it; and what follows. -/
def ofUnit? (unit : Nat) (cs : List Char) : Option (Char × List Char) :=
  if unit.isValidChar then some (Char.ofNat unit, cs)
  else
    match cs with
    | '\\' :: 'u' :: rest => do
      let (low, rest) ← unit? rest
      return (← pair? unit low, rest)
    | _ => none

/-- The character that is written behind a backslash, by a letter or by units of text, and what
follows it. -/
def escaped? : List Char → Option (Char × List Char)
  | [] => none
  | 'u' :: rest => (unit? rest).bind fun (unit, rest) => ofUnit? unit rest
  | c :: rest => (unescape? c).map fun c => (c, rest)

/-- One character of a string, and what follows it.  There is none at a quote, and no control
character stands for itself. -/
def character? : List Char → Option (Char × List Char)
  | [] => none
  | '"' :: _ => none
  | '\\' :: rest => escaped? rest
  | c :: rest => if c.toNat < 0x20 then none else some (c, rest)

theorem unit?_length {cs rest : List Char} {unit : Nat} (h : unit? cs = some (unit, rest)) :
    rest.length < cs.length := by
  match cs with
  | [] | [_] | [_, _] | [_, _, _] => exact nomatch h
  | a :: b :: c :: d :: tail =>
    rw [unit?, Option.ite_none_right_eq_some] at h
    cases h.2
    simp only [List.length_cons]
    omega

theorem ofUnit?_length {unit : Nat} {cs rest : List Char} {c : Char}
    (h : ofUnit? unit cs = some (c, rest)) : rest.length ≤ cs.length := by
  revert h
  fun_cases ofUnit? unit cs with
  | case1 valid =>
    rintro ⟨⟩
    exact Nat.le_refl _
  | case2 invalid tail =>
    intro h
    obtain ⟨⟨low, tail'⟩, second, h⟩ := Option.bind_eq_some_iff.1 h
    obtain ⟨c', paired, h⟩ := Option.bind_eq_some_iff.1 h
    cases h
    have := unit?_length second
    simp only [List.length_cons]
    omega
  | case3 => exact nofun

theorem escaped?_length {cs rest : List Char} {c : Char} (h : escaped? cs = some (c, rest)) :
    rest.length < cs.length := by
  revert h
  fun_cases escaped? cs with
  | case1 => exact nofun
  | case2 tail =>
    intro h
    obtain ⟨⟨unit, tail'⟩, first, h⟩ := Option.bind_eq_some_iff.1 h
    exact Nat.lt_succ_of_lt (Nat.lt_of_le_of_lt (ofUnit?_length h) (unit?_length first))
  | case3 letter tail other =>
    intro h
    obtain ⟨c', unescaped, h⟩ := Option.map_eq_some_iff.1 h
    cases h
    exact Nat.lt_succ_self _

theorem character?_length {cs rest : List Char} {c : Char} (h : character? cs = some (c, rest)) :
    rest.length < cs.length := by
  revert h
  fun_cases character? cs with
  | case1 => exact nofun
  | case2 => exact nofun
  | case3 tail =>
    intro h
    exact Nat.lt_succ_of_lt (escaped?_length h)
  | case4 => exact nofun
  | case5 c tail =>
    rintro ⟨⟩
    exact Nat.lt_succ_self _

/-- The characters of a string up to the quote that ends it, and what follows the quote. -/
def string? (cs : List Char) : Option (List Char × List Char) :=
  match _h : character? cs with
  | some (c, rest) => (string? rest).map fun (text, rest) => (c :: text, rest)
  | none => if cs.head? = some '"' then some ([], cs.tail) else none
termination_by cs.length
decreasing_by exact character?_length _h

theorem string?_of_character? {cs rest : List Char} {c : Char}
    (h : character? cs = some (c, rest)) :
    string? cs = (string? rest).map fun (text, rest) => (c :: text, rest) := by
  rw [string?]
  split
  next c' rest' h' =>
    rw [h] at h'
    cases h'
    rfl
  next h' =>
    rw [h] at h'
    cases h'

@[simp] theorem string?_quote (rest : List Char) : string? ('"' :: rest) = some ([], rest) := by
  rw [string?]
  rfl

theorem string?_length {cs rest text : List Char} (h : string? cs = some (text, rest)) :
    rest.length < cs.length := by
  fun_induction string? cs generalizing text with
  | case1 cs c tail hc ih =>
    obtain ⟨⟨text', tail'⟩, read, h⟩ := Option.map_eq_some_iff.1 h
    cases h
    exact Nat.lt_trans (ih read) (character?_length hc)
  | case2 cs hc quote =>
    obtain ⟨tail, rfl⟩ := List.head?_eq_some_iff.1 quote
    cases h
    exact Nat.lt_succ_self _
  | case3 => exact nomatch h

/-! ### Pieces -/

/-- What a JSON text of nulls, strings and objects consists of. -/
inductive Piece
  | null
  | string (text : String)
  | opening
  | closing
  | colon
  | comma
  deriving DecidableEq

/-- The spelling of a piece. -/
def Piece.text : Piece → List Char
  | null => ['n', 'u', 'l', 'l']
  | string text => quoted text
  | opening => ['\x7b']
  | closing => ['\x7d']
  | colon => [':']
  | comma => [',']

/-- The piece that a mark of punctuation is. -/
def Piece.ofMark? : Char → Option Piece
  | '\x7b' => some opening
  | '\x7d' => some closing
  | ':' => some colon
  | ',' => some comma
  | _ => none

/-- The blanks and line breaks that may stand between pieces. -/
def isSpace (c : Char) : Bool :=
  c = ' ' || c = '\t' || c = '\n' || c = '\r'

/-- The piece at the start of a text, and what follows it.  A space counts as no piece. -/
def piece? : List Char → Option (Option Piece × List Char)
  | [] => none
  | 'n' :: 'u' :: 'l' :: 'l' :: rest => some (some .null, rest)
  | '"' :: rest => (string? rest).map fun (text, rest) => (some (.string (.ofList text)), rest)
  | c :: rest =>
    if isSpace c then some (none, rest) else (Piece.ofMark? c).map fun p => (some p, rest)

theorem piece?_length {cs rest : List Char} {p : Option Piece} (h : piece? cs = some (p, rest)) :
    rest.length < cs.length := by
  revert h
  fun_cases piece? cs with
  | case1 => exact nofun
  | case2 tail =>
    rintro ⟨⟩
    simp only [List.length_cons]
    omega
  | case3 tail =>
    intro h
    obtain ⟨⟨text, tail'⟩, read, h⟩ := Option.map_eq_some_iff.1 h
    cases h
    exact Nat.lt_succ_of_lt (string?_length read)
  | case4 c tail =>
    rintro ⟨⟩
    exact Nat.lt_succ_self _
  | case5 c tail =>
    intro h
    obtain ⟨p', mark, h⟩ := Option.map_eq_some_iff.1 h
    cases h
    exact Nat.lt_succ_self _

/-- The pieces of a text. -/
def pieces? (cs : List Char) : Option (List Piece) :=
  match _h : piece? cs with
  | some (p, rest) => (pieces? rest).map (p.toList ++ ·)
  | none => if cs = [] then some [] else none
termination_by cs.length
decreasing_by exact piece?_length _h

theorem pieces?_of_piece? {cs rest : List Char} {p : Option Piece}
    (h : piece? cs = some (p, rest)) : pieces? cs = (pieces? rest).map (p.toList ++ ·) := by
  rw [pieces?]
  split
  next p' rest' h' =>
    rw [h] at h'
    cases h'
    rfl
  next h' =>
    rw [h] at h'
    cases h'

@[simp] theorem pieces?_nil : pieces? [] = some [] := by
  rw [pieces?]
  rfl

/-! ### Reading what was written -/

/-- The characters that stand for a character: a backslash and a letter, a unit of text below U+0020,
or the character itself. -/
theorem escape_cases (c : Char) :
    (∃ letter, letter ≠ 'u' ∧ unescape? letter = some c ∧ escape c = ['\\', letter]) ∨
      (c.toNat < 0x20 ∧ escape c =
        ['\\', 'u', '0', '0', hexDigit (c.toNat / 16), hexDigit (c.toNat % 16)]) ∨
      (0x20 ≤ c.toNat ∧ c ≠ '"' ∧ c ≠ '\\' ∧ escape c = [c]) := by
  fun_cases escape c with
  | case1 | case2 | case3 | case4 | case5 | case6 | case7 =>
    exact .inl ⟨_, by decide, rfl, rfl⟩
  | case8 _ _ _ _ _ _ _ _ control => exact .inr (.inl ⟨control, rfl⟩)
  | case9 _ quote backslash _ _ _ _ _ printable =>
    exact .inr (.inr ⟨Nat.not_lt.1 printable, quote, backslash, rfl⟩)

theorem hexValue_hexDigit : ∀ d < 16, isHexDigit (hexDigit d) = true ∧ hexValue (hexDigit d) = d := by
  decide

theorem unit?_hexDigit {n : Nat} (h : n < 0x20) (rest : List Char) :
    unit? ('0' :: '0' :: hexDigit (n / 16) :: hexDigit (n % 16) :: rest) = some (n, rest) := by
  obtain ⟨ishigh, high⟩ := hexValue_hexDigit (n / 16) (by omega)
  obtain ⟨islow, low⟩ := hexValue_hexDigit (n % 16) (by omega)
  have zero : isHexDigit '0' = true ∧ hexValue '0' = 0 := by decide
  simp [unit?, ishigh, high, islow, low, zero]
  omega

/-- **A character is read as it was written.** -/
theorem character?_escape (c : Char) (rest : List Char) :
    character? (escape c ++ rest) = some (c, rest) := by
  rcases escape_cases c with ⟨letter, hu, hletter, h⟩ | ⟨control, h⟩ | ⟨printable, quote, backslash, h⟩
  · rw [h]
    simp [character?, escaped?, hletter]
  · have valid : c.toNat.isValidChar := c.valid
    rw [h]
    simp [character?, escaped?, unit?_hexDigit control, ofUnit?, valid]
  · rw [h]
    simp [character?, Nat.not_lt.2 printable]

/-- **A string is read as it was written.** -/
theorem string?_flatMap_escape (text rest : List Char) :
    string? (text.flatMap escape ++ '"' :: rest) = some (text, rest) := by
  induction text with
  | nil => exact string?_quote rest
  | cons c text ih =>
    rw [List.flatMap_cons, List.append_assoc, string?_of_character? (character?_escape c _), ih]
    rfl

/-- Other spellings are read too, such as letters, units of text, and two units for one character.
Half of two units is refused, as is a line break that stands for itself. -/
example : string? "\\/\\u00E9\\ud83d\\uDE00\" ".toList = some (['/', 'é', '😀'], [' ']) ∧
    string? "\\ud83d\"".toList = none ∧ string? "\n\"".toList = none := by
  decide +kernel

/-- **A piece is read as it is spelled.** -/
theorem piece?_text (p : Piece) (rest : List Char) :
    piece? (p.text ++ rest) = some (some p, rest) := by
  cases p with
  | string text => simp [Piece.text, quoted, piece?, string?_flatMap_escape]
  | null | opening | closing | colon | comma => rfl

/-! ### Layouts -/

/-- A text lays out pieces, one after the other and with spaces around them. -/
inductive Laid : List Char → List Piece → Prop
  | nil : Laid [] []
  | space {c : Char} {cs : List Char} {ps : List Piece} (hc : isSpace c = true) (h : Laid cs ps) :
      Laid (c :: cs) ps
  | piece (p : Piece) {cs : List Char} {ps : List Piece} (h : Laid cs ps) :
      Laid (p.text ++ cs) (p :: ps)

/-- **The pieces of a layout are read.** -/
theorem Laid.pieces?_eq {cs : List Char} {ps : List Piece} (h : Laid cs ps) :
    pieces? cs = some ps := by
  induction h with
  | nil => exact pieces?_nil
  | @space c cs ps hc h ih =>
    have blank : piece? (c :: cs) = some (none, cs) := by
      simp only [isSpace, Bool.or_eq_true, decide_eq_true_eq] at hc
      rcases hc with ((rfl | rfl) | rfl) | rfl <;> rfl
    rw [pieces?_of_piece? blank, ih]
    rfl
  | piece p h ih =>
    rw [pieces?_of_piece? (piece?_text p _), ih]
    rfl

/-! ### Removing spaces -/

/-- Where a character of a text stands: outside the strings, in a string, or behind a backslash in a
string. -/
inductive Place
  | outside
  | inside
  | escaped

/-- Remove the spaces outside the strings, from a place on. -/
def unspacedFrom : Place → List Char → List Char
  | _, [] => []
  | .outside, c :: cs =>
    if isSpace c then unspacedFrom .outside cs
    else c :: unspacedFrom (if c = '"' then .inside else .outside) cs
  | .inside, c :: cs =>
    c :: unspacedFrom (if c = '"' then .outside else if c = '\\' then .escaped else .inside) cs
  | .escaped, c :: cs => c :: unspacedFrom .inside cs

/-- Remove the blanks and line breaks of a text that stand outside its strings. -/
def unspaced (text : String) : String :=
  .ofList (unspacedFrom .outside text.toList)

theorem unspacedFrom_escape (c : Char) (rest : List Char) :
    unspacedFrom .inside (escape c ++ rest) = escape c ++ unspacedFrom .inside rest := by
  rcases escape_cases c with ⟨letter, -, -, h⟩ | ⟨control, h⟩ | ⟨-, quote, backslash, h⟩
  · simp [h, unspacedFrom]
  · have plain : ∀ d < 16, hexDigit d ≠ '"' ∧ hexDigit d ≠ '\\' := by decide
    have high := plain (c.toNat / 16) (by omega)
    have low := plain (c.toNat % 16) (by omega)
    simp [h, unspacedFrom, high, low]
  · simp [h, unspacedFrom, quote, backslash]

theorem unspacedFrom_flatMap_escape (text rest : List Char) :
    unspacedFrom .inside (text.flatMap escape ++ rest) =
      text.flatMap escape ++ unspacedFrom .inside rest := by
  induction text with
  | nil => rfl
  | cons c text ih =>
    rw [List.flatMap_cons, List.append_assoc, unspacedFrom_escape, ih, List.append_assoc]

theorem unspacedFrom_text (p : Piece) (rest : List Char) :
    unspacedFrom .outside (p.text ++ rest) = p.text ++ unspacedFrom .outside rest := by
  cases p with
  | string text =>
    simp [Piece.text, quoted, unspacedFrom, unspacedFrom_flatMap_escape, isSpace]
  | null | opening | closing | colon | comma => rfl

/-- **Without spaces a layout is the spelling of its pieces.** -/
theorem Laid.unspacedFrom_eq {cs : List Char} {ps : List Piece} (h : Laid cs ps) :
    unspacedFrom .outside cs = ps.flatMap Piece.text := by
  induction h with
  | nil => rfl
  | space hc h ih => rw [unspacedFrom, if_pos hc, ih]
  | piece p h ih => rw [unspacedFrom_text, ih, List.flatMap_cons]

end Json

end GovernedExpr
