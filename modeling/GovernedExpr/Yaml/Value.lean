import GovernedExpr.Yaml.Node

/-!
# Values of documents

* `Value` is the type of values: a node has one once its aliases are followed, its tags are heeded
  and its plain scalars are understood;
* `Value.same` tells whether two values are the same: the order of a mapping does not matter;
* `Value.scalarText?` is the text of a value that is a text, a number or a truth value;
* `Source` is a document whose nodes are valued, `Source.value?` values a node, `Source.pairs?` a
  mapping.
-/

namespace GovernedExpr.Yaml

/-- A value of a document. -/
inductive Value
  | null
  | boolean (b : Bool)
  | number (n : Number)
  | text (s : String)
  | sequence (items : List Value)
  | mapping (pairs : List (Value × Value))
  /-- A value with a tag of the document's own. -/
  | tagged (tag : String) (value : Value)
  deriving Inhabited

namespace Value

mutual

/-- Whether two values are the same. -/
def same : Value → Value → Bool
  | null, null => true
  | boolean a, boolean b => a = b
  | number a, number b => a.same b
  | text a, text b => a = b
  | sequence as, sequence bs => sameItems as bs
  | mapping as, mapping bs => as.length = bs.length && allIn as bs
  | tagged a v, tagged b w => a = b && v.same w
  | _, _ => false

/-- Whether two sequences have the same items. -/
def sameItems : List Value → List Value → Bool
  | [], [] => true
  | a :: as, b :: bs => a.same b && sameItems as bs
  | _, _ => false

/-- Whether all pairs of a mapping are among those of another one. -/
def allIn : List (Value × Value) → List (Value × Value) → Bool
  | [], _ => true
  | (key, value) :: as, bs =>
    (bs.any fun (other, content) => key.same other && value.same content) && allIn as bs

end

/-- The text of a value that is a text, a number or a truth value. -/
def scalarText? : Value → Option String
  | boolean b => some (if b then "true" else "false")
  | number n => some n.text
  | text s => some s
  | _ => none

end Value

/-! ### Scalars -/

/-- Whether a plain text says that there is no value. -/
def isNull (text : List Char) : Bool :=
  ["null", "Null", "NULL", "~"].contains (String.ofList text)

/-- The truth value that a plain text names. -/
def boolean? (text : List Char) : Option Bool :=
  let word := String.ofList text
  if ["true", "True", "TRUE"].contains word then some true
  else if ["false", "False", "FALSE"].contains word then some false
  else none

/-- Whether an integer fits a word of so many bits, with or without a sign. -/
def fits (bits : Nat) (n : Int) : Bool :=
  -(Nat.pow 2 (bits - 1) : Int) ≤ n && n < (Nat.pow 2 bits : Int)

/-- What a plain text stands for that names nothing and is no integer: a number of floating point, or the
text. -/
def inexactValue (text : List Char) : Value :=
  match if hasIdleZero text then none else float? text with
  | some n => .number n
  | none => .text (String.ofList text)

/-- What a plain text without a tag stands for.  Integers that need more than 64 bits but no more
than 128 are refused, larger ones are numbers of floating point. -/
def plainValue? (text : List Char) : Option Value :=
  if text.isEmpty || isNull text then some .null
  else
    match boolean? text, integer? text with
    | some b, _ => some (.boolean b)
    | none, some n =>
      if fits 64 n then some (.number (.integer n))
      else if fits 128 n then none
      else some (inexactValue text)
    | none, none => some (inexactValue text)

/-- What a scalar stands for. -/
def scalarValue? (tag : Option Tag) (style : ScalarStyle) (text : List Char) : Option Value :=
  match tag with
  | some .null => if isNull text then some .null else none
  | some .boolean => (boolean? text).map .boolean
  | some .integer => ((integer? text).filter (fits 64)).map fun n => .number (.integer n)
  | some .float => (float? text).map .number
  | some .other => some (.text (String.ofList text))
  | _ => if style = .plain then plainValue? text else some (.text (String.ofList text))

/-! ### Nodes -/

/-- The greatest number of collections inside of each other. -/
def greatestDepth : Nat := 128

/-- A document whose nodes are valued: which nodes have anchors, the latest first. -/
structure Source where
  anchored : List (Nat × Node)

/-- A computation that may follow so many aliases. -/
abbrev Following (α : Type) : Type := StateT Nat Option α

namespace Source

/-- The document with a tree. -/
def ofNode (root : Node) : Source :=
  ⟨(root.nodes.filterMap fun node => node.anchor?.map fun anchor => (anchor, node)).reverse⟩

/-- How many aliases may be followed in the document with a tree: a hundred for each scalar and
each alias, and for each of both ends of a collection. -/
def aliasLimit (root : Node) : Nat :=
  let weight : Node → Nat
    | .sequence _ _ | .mapping _ _ => 2
    | _ => 1
  100 * root.nodes.foldl (fun total node => total + weight node) 0

/-- The node that a node stands for. -/
def target (s : Source) : Node → Following Node
  | .reference anchor => fun left =>
    match left, s.anchored.lookup anchor with
    | left + 1, some node => some (node, left)
    | _, _ => none
  | node => pure node

/-- Join the values of keys and values to a mapping, whose keys all differ. -/
def joinPairs? (pairs : List (Value × Value)) : Option (List (Value × Value)) :=
  if pairs.Pairwise fun a b => !a.1.same b.1 then some pairs else none

/-- A value under a tag: one of the document's own makes the value one that is tagged. -/
def labelled : Option Tag → Value → Value
  | some (.own name), value => .tagged name value
  | _, value => value

/-- The value of a node with so many collections inside of each other at most. -/
def valueWithin? (s : Source) : Nat → Node → Following Value
  | depth, node => do
    match ← s.target node with
    | .reference _ => failure
    | .scalar properties style text =>
      return labelled properties.tag (← scalarValue? properties.tag style text)
    | .sequence properties items =>
      match depth with
      | 0 => failure
      | depth + 1 =>
        return labelled properties.tag (.sequence (← items.mapM (s.valueWithin? depth)))
    | .mapping properties pairs =>
      match depth with
      | 0 => failure
      | depth + 1 =>
        let pairs ← pairs.mapM fun (key, value) =>
          return (← s.valueWithin? depth key, ← s.valueWithin? depth value)
        return labelled properties.tag (.mapping (← joinPairs? pairs))

/-- The pairs of a mapping that stands in the document's outermost mapping; nothing stands for no
pairs. -/
def pairs? (s : Source) (node : Node) : Following (List (Value × Value)) := do
  match ← s.target node with
  | .scalar _ .plain [] => return []
  | .mapping _ pairs =>
    let pairs ← pairs.mapM fun (key, value) =>
      return (← s.valueWithin? (greatestDepth - 2) key,
        ← s.valueWithin? (greatestDepth - 2) value)
    joinPairs? pairs
  | _ => failure

/-- The text of a node that is a scalar, whatever its tag. -/
def text? (s : Source) (node : Node) : Following String := do
  match ← s.target node with
  | .scalar _ _ text => return String.ofList text
  | _ => failure

/-- The integer of a node: a plain scalar whatever its tag, or a literal one that is tagged as an
integer. -/
def integer? (s : Source) (node : Node) : Following Int := do
  match ← s.target node with
  | .scalar properties style text =>
    if style = .plain || (style = .literal && properties.tag = some .integer) then
      Yaml.integer? text
    else failure
  | _ => failure

end Source

end GovernedExpr.Yaml
