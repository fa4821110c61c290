import GovernedExpr.Yaml.Scalar

/-!
# Tokens of documents

* `Token` lists the tokens: the marks of a document, the scalars, and the beginnings and ends of
  collections, those that only the indentation shows included;
* `anchorName?`, `tag?` and `directive?` read the tokens that are names.
-/

namespace GovernedExpr.Yaml

/-- A token of a document. -/
inductive Token
  /-- The version of the notation. -/
  | version (major minor : Nat)
  /-- A handle, and what it stands for in tags. -/
  | handle (name : List Char) (expansion : List UInt8)
  | documentStart
  | documentEnd
  | blockSequenceStart
  | blockMappingStart
  | blockEnd
  | flowSequenceStart
  | flowSequenceEnd
  | flowMappingStart
  | flowMappingEnd
  | blockEntry
  | flowEntry
  | key
  | value
  | anchor (name : List Char)
  | reference (name : List Char)
  /-- A tag: a handle, which is empty in a tag that is written in full, and the rest of the tag. -/
  | tag (handle : List Char) (suffix : List UInt8)
  | scalar (style : ScalarStyle) (text : List Char)
  deriving DecidableEq, Inhabited

/-! ### Anchors -/

/-- Read the name of an anchor or of an alias. -/
def anchorName? (cs : List Char) : Option (List Char × List Char) :=
  let name := cs.takeWhile isNameCharacter
  let rest := cs.dropWhile isNameCharacter
  let marks := ['?', ':', ',', ']', '}', '%', '@', '\x60']
  if !name.isEmpty && (endsWord rest || beginsWith marks rest) then some (name, rest) else none

/-! ### Tags -/

/-- Whether a character stands for itself in a tag; some do only where the tag is set apart. -/
def isTagCharacter (apart : Bool) (c : Char) : Bool :=
  isNameCharacter c || ";/?:@&=+$.!~*'()".toList.contains c || (apart && [',', '[', ']'].contains c)

/-- The number of octets that follow the first octet of a character. -/
def furtherOctets? (octet : Nat) : Option Nat :=
  if octet < 0x80 then some 0
  else if 0xC0 ≤ octet && octet < 0xE0 then some 1
  else if 0xE0 ≤ octet && octet < 0xF0 then some 2
  else if 0xF0 ≤ octet && octet < 0xF8 then some 3
  else none

/-- Read the octets of a tag, some further octets of a character being due. -/
def tagOctets? (apart : Bool) (due : Nat) : List Char → Option (List UInt8 × List Char)
  | '%' :: high :: low :: rest => do
    let octet := 16 * (← digitIn? 16 high) + (← digitIn? 16 low)
    let due ←
      match due with
      | 0 => furtherOctets? octet
      | due + 1 => if 0x80 ≤ octet && octet < 0xC0 then some due else none
    let (octets, rest) ← tagOctets? apart due rest
    return (octet.toUInt8 :: octets, rest)
  | [] => if due = 0 then some ([], []) else none
  | c :: rest =>
    if due = 0 && c ≠ '%' then
      if isTagCharacter apart c then
        (tagOctets? apart 0 rest).map fun (octets, rest) => (c.toNat.toUInt8 :: octets, rest)
      else some ([], c :: rest)
    else none

/-- Read the octets of a tag, of which there has to be one.  A zero octet ends the tag. -/
def tagText? (apart : Bool) (cs : List Char) : Option (List UInt8 × List Char) := do
  let (octets, rest) ← tagOctets? apart 0 cs
  if octets.isEmpty then none else return (octets.takeWhile fun octet => octet ≠ 0, rest)

/-- The octet of an exclamation mark. -/
def exclamation : UInt8 := '!'.toNat.toUInt8

/-- Read a tag after its exclamation mark. -/
def tagToken? (cs : List Char) : Option (Token × List Char) :=
  let name := cs.takeWhile isNameCharacter
  match cs, cs.dropWhile isNameCharacter with
  | '<' :: rest, _ => do
    let (suffix, rest) ← tagText? true rest
    match rest with
    | '>' :: rest => some (.tag [] suffix, rest)
    | _ => none
  | _, '!' :: rest => do
    let (suffix, rest) ← tagText? false rest
    return (.tag ('!' :: (name ++ ['!'])) suffix, rest)
  | _, _ => do
    let (octets, rest) ← tagOctets? false 0 cs
    let suffix := octets.takeWhile fun octet => octet ≠ 0
    return (if suffix.isEmpty then .tag [] [exclamation] else .tag ['!'] suffix, rest)

/-- Read a tag after its exclamation mark; a blank follows it, or a comma in a flow collection. -/
def tag? (flow : Bool) (cs : List Char) : Option (Token × List Char) := do
  let (token, rest) ← tagToken? cs
  if endsWord rest || (flow && beginsWith [','] rest) then return (token, rest) else none

/-! ### Directives -/

/-- Read a number of a version, which has at most nine digits. -/
def versionNumber? (cs : List Char) : Option (Nat × List Char) :=
  let digits := cs.takeWhile isDecimal
  if digits.length ≤ 9 then
    (naturalIn? 10 digits).map fun n => (n, cs.dropWhile isDecimal)
  else none

/-- Read a handle that a directive sets: an exclamation mark, or a name between two of them. -/
def handleName? : List Char → Option (List Char × List Char)
  | '!' :: cs =>
    let name := cs.takeWhile isNameCharacter
    match cs.dropWhile isNameCharacter with
    | '!' :: rest => some ('!' :: (name ++ ['!']), rest)
    | rest => if name.isEmpty then some (['!'], rest) else none
  | _ => none

/-- Read a directive after its percent sign. -/
def directive? (cs : List Char) : Option (Token × List Char) := do
  let name := String.ofList (cs.takeWhile isNameCharacter)
  let rest := cs.dropWhile isNameCharacter
  if !endsWord rest then none
  let rest := rest.dropWhile isGap
  if name = "YAML" then
    let (major, rest) ← versionNumber? rest
    match rest with
    | '.' :: rest =>
      let (minor, rest) ← versionNumber? rest
      return (.version major minor, rest)
    | _ => none
  else if name = "TAG" then
    let (handle, rest) ← handleName? rest
    if !beginsWith [' ', '\t'] rest then none
    let (expansion, rest) ← tagText? true (rest.dropWhile isGap)
    if endsWord rest then return (.handle handle expansion, rest) else none
  else none

end GovernedExpr.Yaml
