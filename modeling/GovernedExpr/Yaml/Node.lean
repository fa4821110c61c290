import GovernedExpr.Yaml.Layout

/-!
# Nodes of documents

A document is a tree of scalars, sequences and mappings.  A node may have a tag and an anchor, and
an alias stands for the node with an anchor.

* `Tag` is what a tag says about a node;
* `Node` is the type of trees, `Node.nodes` lists the nodes of a tree, each before those inside of
  it;
* `Node.ofTokens?` builds the tree of a document that consists of nothing else;
* `Node.read?` reads the tree of a text.
-/

namespace GovernedExpr.Yaml

/-! ### Tags -/

/-- What a tag says about a node. -/
inductive Tag
  | null
  | boolean
  | integer
  | float
  /-- A tag of the document's own. -/
  | own (name : String)
  | other
  deriving DecidableEq, Inhabited

/-- A name without an exclamation mark at its front, unless that is the name. -/
def plainTagName : List Char → List Char
  | '!' :: c :: rest => c :: rest
  | name => name

/-- What a tag in full says about a node.  A tag of the document's own that is no text says
nothing. -/
def Tag.ofOctets? (octets : List UInt8) : Option Tag :=
  match String.fromUTF8? ⟨octets.toArray⟩ with
  | none => if octets.head? = some exclamation then none else some other
  | some name =>
    if name = "tag:yaml.org,2002:null" then some null
    else if name = "tag:yaml.org,2002:bool" then some boolean
    else if name = "tag:yaml.org,2002:int" then some integer
    else if name = "tag:yaml.org,2002:float" then some float
    else if beginsWith ['!'] name.toList then
      some (own (String.ofList (plainTagName (plainTagName name.toList))))
    else some other

/-! ### Trees -/

/-- The number of an anchor and the tag of a node. -/
structure Properties where
  anchor : Option Nat
  tag : Option Tag
  deriving DecidableEq, Inhabited

/-- A node of a document. -/
inductive Node
  | reference (anchor : Nat)
  | scalar (properties : Properties) (style : ScalarStyle) (text : List Char)
  | sequence (properties : Properties) (items : List Node)
  | mapping (properties : Properties) (pairs : List (Node × Node))
  deriving Inhabited

namespace Node

/-- A scalar without text. -/
def blank : Node := scalar ⟨none, none⟩ .plain []

/-- The number of the anchor of a node. -/
def anchor? : Node → Option Nat
  | reference _ => none
  | scalar properties _ _ => properties.anchor
  | sequence properties _ => properties.anchor
  | mapping properties _ => properties.anchor

mutual

/-- The nodes of a tree, each before those inside of it. -/
def nodes : Node → List Node
  | sequence properties items => sequence properties items :: nodesOfItems items
  | mapping properties pairs => mapping properties pairs :: nodesOfPairs pairs
  | node => [node]

/-- The nodes of trees. -/
def nodesOfItems : List Node → List Node
  | [] => []
  | item :: items => item.nodes ++ nodesOfItems items

/-- The nodes of pairs of trees. -/
def nodesOfPairs : List (Node × Node) → List Node
  | [] => []
  | (key, value) :: pairs => key.nodes ++ (value.nodes ++ nodesOfPairs pairs)

end

/-! ### Reading -/

/-- What is left to read, and the numbers of the anchors read so far. -/
structure Reading where
  tokens : List Token
  anchors : List (List Char × Nat)

namespace Reading

/-- Whether one of some tokens follows, or one like it. -/
def meets (r : Reading) (tokens : List Token) : Bool :=
  r.tokens.head?.any tokens.contains

/-- Pass a token. -/
def pass (r : Reading) : Reading := { r with tokens := r.tokens.drop 1 }

/-- Number an anchor: its number is how many names of anchors there were before. -/
def setAnchor (r : Reading) (name : List Char) : Nat × Reading :=
  let number := r.anchors.length
  (number, { r with anchors := (name, number) :: r.anchors.filter fun (other, _) => other ≠ name })

end Reading

/-- What the handles of a document stand for. -/
abbrev Handles : Type := List (List Char × List UInt8)

/-- The tag in full for a handle and the rest of a tag. -/
def fullTag? (handles : Handles) (handle : List Char) (suffix : List UInt8) : Option (List UInt8) :=
  if handle.isEmpty then some suffix
  else (handles.lookup handle).map fun expansion => expansion ++ suffix

/-- Read an anchor and a tag, which come in either order, if they are there.  The result also says
whether there was one of them. -/
def properties? (handles : Handles) (r : Reading) : Option (Bool × Properties × Reading) :=
  let tagged (handle : List Char) (suffix : List UInt8) (anchor : Option Nat) (r : Reading) :
      Option (Bool × Properties × Reading) :=
    (fullTag? handles handle suffix).map fun octets => (true, ⟨anchor, Tag.ofOctets? octets⟩, r)
  match r.tokens with
  | .anchor name :: .tag handle suffix :: tokens =>
    let (number, r) := { r with tokens }.setAnchor name
    tagged handle suffix (some number) r
  | .tag handle suffix :: .anchor name :: tokens =>
    let (number, r) := { r with tokens }.setAnchor name
    tagged handle suffix (some number) r
  | .anchor name :: tokens =>
    let (number, r) := { r with tokens }.setAnchor name
    some (true, ⟨some number, none⟩, r)
  | .tag handle suffix :: tokens => tagged handle suffix none { r with tokens }
  | _ => some (false, ⟨none, none⟩, r)

/-- Where a node stands. -/
inductive Position
  /-- In a flow collection. -/
  | flow
  /-- In a block. -/
  | block
  /-- As a key or a value of a block, where the items of a sequence need not be indented. -/
  | field
  deriving DecidableEq

mutual

/-- Read a node. -/
def node? (handles : Handles) (position : Position) : Nat → Reading → Option (Node × Reading)
  | 0, _ => none
  | fuel + 1, r =>
    match r.tokens with
    | .reference name :: _ => (r.anchors.lookup name).map fun number => (reference number, r.pass)
    | _ => do
      let (any, properties, r) ← properties? handles r
      match r.tokens with
      | .scalar style text :: _ => some (scalar properties style text, r.pass)
      | .flowSequenceStart :: _ =>
        let (items, r) ← flowItems? handles true [] fuel r.pass
        return (sequence properties items, r)
      | .flowMappingStart :: _ =>
        let (pairs, r) ← flowPairs? handles true [] fuel r.pass
        return (mapping properties pairs, r)
      | _ =>
        if position = .field && r.meets [.blockEntry] then
          let (items, r) ← fieldItems? handles [] fuel r
          return (sequence properties items, r)
        else if position ≠ .flow && r.meets [.blockSequenceStart] then
          let (items, r) ← blockItems? handles [] fuel r.pass
          return (sequence properties items, r)
        else if position ≠ .flow && r.meets [.blockMappingStart] then
          let (pairs, r) ← blockPairs? handles [] fuel r.pass
          return (mapping properties pairs, r)
        else if any then some (scalar properties .plain [], r)
        else none

/-- Read a node, or a scalar without text if one of some tokens follows. -/
def nodeUnless? (handles : Handles) (position : Position) (ends : List Token) :
    Nat → Reading → Option (Node × Reading)
  | 0, _ => none
  | fuel + 1, r => if r.meets ends then some (blank, r) else node? handles position fuel r

/-- Read a value after its mark, or a scalar without text if there is no mark. -/
def valueUnless? (handles : Handles) (position : Position) (ends : List Token) :
    Nat → Reading → Option (Node × Reading)
  | 0, _ => none
  | fuel + 1, r =>
    if r.meets [.value] then nodeUnless? handles position ends fuel r.pass else some (blank, r)

/-- Read the items of a block up to its end, after items read already, the latest first. -/
def blockItems? (handles : Handles) (items : List Node) :
    Nat → Reading → Option (List Node × Reading)
  | 0, _ => none
  | fuel + 1, r =>
    if r.meets [.blockEntry] then do
      let (item, r) ← nodeUnless? handles .block [.blockEntry, .blockEnd] fuel r.pass
      blockItems? handles (item :: items) fuel r
    else if r.meets [.blockEnd] then some (items.reverse, r.pass)
    else none

/-- Read the items of a sequence that is not indented, after items read already. -/
def fieldItems? (handles : Handles) (items : List Node) :
    Nat → Reading → Option (List Node × Reading)
  | 0, _ => none
  | fuel + 1, r =>
    if r.meets [.blockEntry] then do
      let (item, r) ← nodeUnless? handles .block [.blockEntry, .key, .value, .blockEnd] fuel r.pass
      fieldItems? handles (item :: items) fuel r
    else some (items.reverse, r)

/-- Read the pairs of a block up to its end, after pairs read already. -/
def blockPairs? (handles : Handles) (pairs : List (Node × Node)) :
    Nat → Reading → Option (List (Node × Node) × Reading)
  | 0, _ => none
  | fuel + 1, r =>
    if r.meets [.key] then do
      let ends := [.key, .value, .blockEnd]
      let (key, r) ← nodeUnless? handles .field ends fuel r.pass
      let (value, r) ← valueUnless? handles .field ends fuel r
      blockPairs? handles ((key, value) :: pairs) fuel r
    else if r.meets [.blockEnd] then some (pairs.reverse, r.pass)
    else none

/-- Read the items of a flow sequence up to its end, after items read already. -/
def flowItems? (handles : Handles) (first : Bool) (items : List Node) :
    Nat → Reading → Option (List Node × Reading)
  | 0, _ => none
  | fuel + 1, r =>
    if r.meets [.flowSequenceEnd] then some (items.reverse, r.pass)
    else if !first && !r.meets [.flowEntry] then none
    else
      let r := if first then r else r.pass
      if r.meets [.key] then do
        let r := r.pass
        let (key, r) ←
          if r.meets [.value, .flowEntry, .flowSequenceEnd] then some (blank, r.pass)
          else node? handles .flow fuel r
        let (value, r) ← valueUnless? handles .flow [.flowEntry, .flowSequenceEnd] fuel r
        flowItems? handles false (mapping ⟨none, none⟩ [(key, value)] :: items) fuel r
      else if r.meets [.flowSequenceEnd] then some (items.reverse, r.pass)
      else do
        let (item, r) ← node? handles .flow fuel r
        flowItems? handles false (item :: items) fuel r

/-- Read the pairs of a flow mapping up to its end, after pairs read already. -/
def flowPairs? (handles : Handles) (first : Bool) (pairs : List (Node × Node)) :
    Nat → Reading → Option (List (Node × Node) × Reading)
  | 0, _ => none
  | fuel + 1, r =>
    if r.meets [.flowMappingEnd] then some (pairs.reverse, r.pass)
    else if !first && !r.meets [.flowEntry] then none
    else
      let r := if first then r else r.pass
      if r.meets [.key] then do
        let (key, r) ←
          nodeUnless? handles .flow [.value, .flowEntry, .flowMappingEnd] fuel r.pass
        let (value, r) ← valueUnless? handles .flow [.flowEntry, .flowMappingEnd] fuel r
        flowPairs? handles false ((key, value) :: pairs) fuel r
      else if r.meets [.flowMappingEnd] then some (pairs.reverse, r.pass)
      else do
        let (key, r) ← node? handles .flow fuel r
        flowPairs? handles false ((key, blank) :: pairs) fuel r

end

/-! ### Documents -/

/-- What handles stand for where no directive says otherwise. -/
def commonHandles : Handles :=
  [(['!'], [exclamation]), (['!', '!'], "tag:yaml.org,2002:".toUTF8.toList)]

/-- Read the directives of a document: at most one states the version, which has to be one that
is understood, and no two set the same handle. -/
def directives? (versioned : Bool) (handles : Handles) :
    List Token → Option (Bool × Handles × List Token)
  | .version major minor :: rest =>
    if !versioned && major = 1 && (minor = 1 || minor = 2) then directives? true handles rest
    else none
  | .handle name expansion :: rest =>
    if (handles.lookup name).isSome then none
    else directives? versioned ((name, expansion) :: handles) rest
  | rest => some (versioned || !handles.isEmpty, handles, rest)

/-- The tree of a document, if its tokens are those of a single document. -/
def ofTokens? (tokens : List Token) : Option Node := do
  let (directed, handles, tokens) ← directives? false [] tokens
  let handles := handles ++ commonHandles
  let fuel := 4 * tokens.length + 4
  let (node, r) ←
    match tokens with
    | .documentStart :: tokens =>
      if (tokens.head?.all fun token => [.documentStart, .documentEnd].contains token) then
        some (blank, ⟨tokens, []⟩)
      else node? handles .block fuel ⟨tokens, []⟩
    | _ => if directed then none else node? handles .block fuel ⟨tokens, []⟩
  if r.tokens.all fun token => token = .documentEnd then return node else none

/-- The tree of a text, if the text is a single document. -/
def read? (source : String) : Option Node :=
  (tokens? source).bind ofTokens?

end Node

end GovernedExpr.Yaml
