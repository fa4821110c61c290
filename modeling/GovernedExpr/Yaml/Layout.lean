import GovernedExpr.Yaml.BlockScalar
import GovernedExpr.Yaml.Token

/-!
# From characters to tokens

The indentation of a document is layout: a block begins where a mark or a key stands right of the
block around it, and ends where something stands left of it.  That a scalar or a collection is a
key shows only at the colon after it, so that the tokens before the key are added late.

* `Layout` is what is known at a place of a document: the open blocks, the open flow collections,
  where a key may have begun, and the tokens so far;
* `Layout.step?` reads one token;
* `tokens?` lists the tokens of a document.
-/

namespace GovernedExpr.Yaml

/-- Where a key may have begun: the number of tokens before it and its place.  The key is due if
only a key can stand there. -/
structure KeyStart where
  index : Nat
  place : Cursor
  due : Bool

/-- What is known at a place of a document. -/
structure Layout where
  place : Cursor
  /-- The columns of the open blocks, the innermost first. -/
  blocks : List Nat
  /-- Whether a key may begin here. -/
  mayBegin : Bool
  /-- Where a key of the innermost collection may have begun. -/
  key : Option KeyStart
  /-- The same for each collection around an open flow collection. -/
  outerKeys : List (Option KeyStart)
  /-- The tokens so far, the latest first. -/
  tokens : List Token
  /-- The number of the tokens so far. -/
  count : Nat

namespace Layout

/-- The layout at the front of a document. -/
def start (cs : List Char) : Layout :=
  ⟨Cursor.start cs, [], true, none, [], [], 0⟩

/-- Whether a flow collection is open. -/
def inFlow (s : Layout) : Bool := !s.outerKeys.isEmpty

/-- Add a token that ends at a place. -/
def emit (s : Layout) (token : Token) (place : Cursor) : Layout :=
  { s with place, tokens := token :: s.tokens, count := s.count + 1 }

/-- Add tokens after the first so many tokens. -/
def insert (s : Layout) (index : Nat) (tokens : List Token) : Layout :=
  let later := s.count - index
  { s with
    tokens := s.tokens.take later ++ (tokens.reverse ++ s.tokens.drop later)
    count := s.count + tokens.length }

/-! ### Blocks -/

/-- Close the open blocks as far as they begin at certain columns. -/
def closeBlocks (s : Layout) (closes : Nat → Bool) : Layout :=
  if s.inFlow then s
  else
    let closed := s.blocks.takeWhile closes
    { s with
      blocks := s.blocks.dropWhile closes
      tokens := List.replicate closed.length .blockEnd ++ s.tokens
      count := s.count + closed.length }

/-- Whether a block begins at a column. -/
def opensBlock (s : Layout) (column : Nat) : Bool :=
  !s.inFlow && s.blocks.head?.all fun block => block < column

/-- Open a block at the place reached, if one begins there. -/
def openBlock (s : Layout) (token : Token) : Layout :=
  let column := s.place.column
  if s.opensBlock column then { s.emit token s.place with blocks := column :: s.blocks } else s

/-! ### Keys -/

/-- A place where a key may have begun counts no more in a later line or more than 1024 octets
further. -/
def expired? (place : Cursor) : Option KeyStart → Option (Option KeyStart)
  | none => some none
  | some k =>
    if k.place.line < place.line || 1024 < k.place.octetsTo place then
      if k.due then none else some none
    else some (some k)

/-- Forget the places where keys may have begun that count no more. -/
def expire? (s : Layout) : Option Layout := do
  let key ← expired? s.place s.key
  let outerKeys ← s.outerKeys.mapM (expired? s.place)
  return { s with key, outerKeys }

/-- Forget where a key of the innermost collection may have begun. -/
def dropKey? (s : Layout) : Option Layout :=
  if s.key.any KeyStart.due then none else some { s with key := none }

/-- Note that a key may begin here. -/
def noteKey? (s : Layout) : Option Layout :=
  if s.mayBegin then do
    let due := !s.inFlow && s.blocks.head? = some s.place.column
    return { ← s.dropKey? with key := some ⟨s.count, s.place, due⟩ }
  else some s

/-! ### Between tokens -/

/-- Skip blanks, comments and breaks, and a byte order mark where a line begins, which takes a
column.  After a break outside of flow collections a key may begin, and where it may, no tab may
stand. -/
def skipFrom (flow mayBegin comment : Bool) (line column : Nat) : List Char → Bool × Cursor
  | [] => (mayBegin, ⟨line, column, []⟩)
  | c :: rest =>
    if isBreak c then skipFrom flow (mayBegin || !flow) false (line + 1) 0 rest
    else if comment || c = ' ' || (c = '\t' && (flow || !mayBegin)) ||
        (column = 0 && c = '\uFEFF') then
      skipFrom flow mayBegin comment line (column + 1) rest
    else if c = '#' then skipFrom flow mayBegin true line (column + 1) rest
    else (mayBegin, ⟨line, column, c :: rest⟩)

/-- Go to the next token, and close the blocks that end before it. -/
def advance? (s : Layout) : Option Layout := do
  let (mayBegin, place) :=
    skipFrom s.inFlow s.mayBegin false s.place.line s.place.column s.place.rest
  let s ← { s with place, mayBegin }.expire?
  return s.closeBlocks fun column => place.column < column

/-! ### Tokens -/

/-- Read a mark of a document: no block goes on after it. -/
def documentMark? (s : Layout) (token : Token) (place : Cursor) : Option Layout := do
  let s ← (s.closeBlocks fun _ => true).dropKey?
  return { s.emit token place with mayBegin := false }

/-- Read the opening mark of a flow collection. -/
def openFlow? (s : Layout) (token : Token) : Option Layout := do
  let s ← s.noteKey?
  return { s.emit token (s.place.skip 1) with
    key := none, outerKeys := s.key :: s.outerKeys, mayBegin := true }

/-- Read the closing mark of a flow collection. -/
def closeFlow? (s : Layout) (token : Token) : Option Layout := do
  let s ← s.dropKey?
  let s := { s.emit token (s.place.skip 1) with mayBegin := false }
  match s.outerKeys with
  | [] => return s
  | key :: outerKeys => return { s with key, outerKeys }

/-- Read the comma of a flow collection. -/
def comma? (s : Layout) : Option Layout := do
  let s ← s.dropKey?
  return { s.emit .flowEntry (s.place.skip 1) with mayBegin := true }

/-- Read the mark of an item of a block. -/
def item? (s : Layout) : Option Layout := do
  if !s.inFlow && !s.mayBegin then none
  let s ← (s.openBlock .blockSequenceStart).dropKey?
  return { s.emit .blockEntry (s.place.skip 1) with mayBegin := true }

/-- Read the mark of a key. -/
def keyMark? (s : Layout) : Option Layout := do
  if !s.inFlow && !s.mayBegin then none
  let s ← (s.openBlock .blockMappingStart).dropKey?
  return { s.emit .key (s.place.skip 1) with mayBegin := !s.inFlow }

/-- Read the colon before a value. -/
def colon? (s : Layout) : Option Layout :=
  match s.key with
  | some k =>
    let column := k.place.column
    let opens := s.opensBlock column
    let s := s.insert k.index (if opens then [.blockMappingStart, .key] else [.key])
    let blocks := if opens then column :: s.blocks else s.blocks
    some { s.emit .value (s.place.skip 1) with blocks, key := none, mayBegin := false }
  | none =>
    if !s.inFlow && !s.mayBegin then none
    else
      let s := s.openBlock .blockMappingStart
      some { s.emit .value (s.place.skip 1) with mayBegin := !s.inFlow }

/-- Add a token that may belong to a key and is read up to the given characters. -/
def word? (s : Layout) : Token × List Char → Option Layout
  | (token, rest) => do
    let s ← s.noteKey?
    return { s.emit token (s.place.upTo rest) with mayBegin := false }

/-- Read a plain scalar. -/
def plain? (fuel : Nat) (s : Layout) : Option Layout := do
  let s ← s.noteKey?
  let least := s.blocks.head?.elim 0 fun column => column + 1
  let (text, broken, place) ← plainFrom s.inFlow least fuel s.place
  return { s.emit (.scalar .plain text) place with mayBegin := broken }

/-- Read a quoted scalar. -/
def quoted? (fuel : Nat) (single : Bool) (s : Layout) : Option Layout := do
  let s ← s.noteKey?
  let (text, place) ← quotedFrom single fuel (s.place.skip 1)
  return { s.emit (.scalar .quoted text) place with mayBegin := false }

/-- Read a block scalar. -/
def block? (fuel : Nat) (style : ScalarStyle) (s : Layout) : Option Layout := do
  let s ← s.dropKey?
  let (text, place) ← blockScalar? (style = .folded) s.blocks.head? fuel (s.place.skip 1)
  return { s.emit (.scalar style text) place with mayBegin := true }

/-- Read the token that begins at the place reached. -/
def token? (fuel : Nat) (s : Layout) : Option Layout :=
  match s.place.rest with
  | [] => none
  | c :: rest =>
    let apart := s.inFlow || endsWord rest
    if s.place.column = 0 && c = '%' then do
      let (token, rest) ← directive? rest
      s.documentMark? token (← (s.place.upTo rest).restOfLine?)
    else if s.place.atMark then
      s.documentMark? (if c = '-' then .documentStart else .documentEnd) (s.place.skip 3)
    else if c = '[' then s.openFlow? .flowSequenceStart
    else if c = '{' then s.openFlow? .flowMappingStart
    else if c = ']' then s.closeFlow? .flowSequenceEnd
    else if c = '}' then s.closeFlow? .flowMappingEnd
    else if c = ',' then s.comma?
    else if c = '-' && endsWord rest then s.item?
    else if c = '?' && apart then s.keyMark?
    else if c = ':' && apart then s.colon?
    else if c = '*' then (anchorName? rest).bind fun (name, rest) => s.word? (.reference name, rest)
    else if c = '&' then (anchorName? rest).bind fun (name, rest) => s.word? (.anchor name, rest)
    else if c = '!' then (tag? s.inFlow rest).bind s.word?
    else if c = '|' && !s.inFlow then s.block? fuel .literal
    else if c = '>' && !s.inFlow then s.block? fuel .folded
    else if c = '\'' then s.quoted? fuel true
    else if c = '"' then s.quoted? fuel false
    else if isGap c || ['|', '>', '%', '@', '\x60'].contains c then none
    else s.plain? fuel

/-- Go to the next token and read it; at the end of the document, close what is open. -/
def step? (fuel : Nat) (s : Layout) : Option (Layout ⊕ List Token) := do
  let s ← s.advance?
  if s.place.rest.isEmpty then
    let s ← (s.closeBlocks fun _ => true).dropKey?
    return .inr s.tokens.reverse
  else return .inl (← s.token? fuel)

/-- Read tokens to the end of the document. -/
def run? : Nat → Layout → Option (List Token)
  | 0, _ => none
  | fuel + 1, s =>
    match s.step? fuel with
    | none => none
    | some (.inr tokens) => some tokens
    | some (.inl s) => run? fuel s

end Layout

/-- The tokens of a document. -/
def tokens? (source : String) : Option (List Token) := do
  let cs ← characters? source.toList
  (Layout.start cs).run? (cs.length + 2)

end GovernedExpr.Yaml
