import GovernedExpr.Text.ByteRange
import Std.Data.HashMap

/-!
# The extent of an automaton

An automaton that reads texts byte by byte has states; some of them hold a list of the states that
come next.  States are numbered in the order in which they are made.  Of the automaton only its
extent matters here: the number of its states, and the memory of their lists.

* `Extent` is an extent; its operations add states;
* `Memo` finds states that were made before.  It has so many slots, and what is put into a slot
  displaces what was there, so that now and then a state is made twice;
* `Extent.withSet` adds the states that read one character of a set;
* `Extent.withWords` adds the states that read one of several words.
-/

namespace GovernedExpr

open Text

/-- The direction in which an automaton reads a text. -/
inductive Direction
  | forward
  | backward
  deriving DecidableEq

/-- The number of states of an automaton, and the bytes of their lists. -/
structure Extent where
  states : Nat
  listBytes : Nat
  deriving DecidableEq

namespace Extent

/-- No states. -/
def zero : Extent := ⟨0, 0⟩

/-- Add states and bytes of lists. -/
def add (e : Extent) (states listBytes : Nat) : Extent :=
  ⟨e.states + states, e.listBytes + listBytes⟩

/-- The memory of a state without its list. -/
def stateBytes : Nat := 32

/-- The memory of a range of bytes in a list, together with the state that comes next. -/
def rangeBytes : Nat := 8

/-- The memory of a state in a list. -/
def choiceBytes : Nat := 4

/-- The memory of an automaton, in bytes. -/
def memory (e : Extent) : Nat :=
  stateBytes * e.states + e.listBytes

/-- The memory that an automaton may take: ten mebibytes. -/
def limit : Nat := 10 * 1024 * 1024

/-- The extent, if it is within the limit. -/
def bounded? (e : Extent) : Option Extent :=
  if e.memory ≤ limit then some e else none

end Extent

/-! ### States made before -/

/-- States by what they do, in a number of slots. -/
structure Memo where
  slots : Nat
  states : Std.HashMap Nat (List Nat × Nat)

namespace Memo

/-- A memo without states. -/
def ofSlots (slots : Nat) : Memo := ⟨slots, ∅⟩

/-- Mix numbers into a word of 64 bits, one after the other. -/
def mix (numbers : List Nat) : UInt64 :=
  numbers.foldl (fun word n => (word ^^^ n.toUInt64) * 1099511628211) 14695981039346656037

/-- The slot of a state. -/
def slot (m : Memo) (key : List Nat) : Nat :=
  (mix key).toNat % m.slots

/-- Find a state. -/
def find? (m : Memo) (key : List Nat) : Option Nat :=
  match m.states[m.slot key]? with
  | some (found, state) => if found = key then some state else none
  | none => none

/-- Put a state into its slot. -/
def insert (m : Memo) (key : List Nat) (state : Nat) : Memo :=
  { m with states := m.states.insert (m.slot key) (key, state) }

end Memo

/-- An extent that grows, and the states that may be met again. -/
structure Growth where
  memo : Memo
  extent : Extent

/-- The state with a key: one that was made before, or a new one with a list of so many bytes. -/
def Growth.state (g : Growth) (key : List Nat) (listBytes : Nat) : Nat × Growth :=
  match g.memo.find? key with
  | some state => (state, g)
  | none =>
    let state := g.extent.states
    (state, ⟨g.memo.insert key state, g.extent.add 1 listBytes⟩)

namespace Extent

/-! ### One character of a set -/

/-- Collect neighbours with the same head: each head together with the tails. -/
def groupHeads {α : Type} [DecidableEq α] : List (List α) → List (α × List (List α))
  | [] => []
  | [] :: rest => groupHeads rest
  | (head :: tail) :: rest =>
    match groupHeads rest with
    | [] => [(head, [tail])]
    | (next, tails) :: groups =>
      if head = next then (head, tail :: tails) :: groups
      else (head, [tail]) :: (next, tails) :: groups

/-- Make the state from which products of ranges of bytes lead to a target, where no product is
longer than the height.  A state has one range for each head of the products, and the states behind
it are made first. -/
def treeState (target : Nat) : (height : Nat) → List (List (Nat × Nat)) → Growth → Nat × Growth
  | 0, _, g => (target, g)
  | height + 1, products, g =>
    let heads := groupHeads products
    if heads.isEmpty then (target, g)
    else
      let (key, g) := heads.foldl (fun (key, g) ((lo, hi), tails) =>
        let (next, g) := treeState target height tails g
        (key ++ [lo, hi, next], g)) ([], g)
      g.state key (rangeBytes * heads.length)

/-- Add a tree of products, in which equal subtrees are one. -/
def withTree (e : Extent) (products : List (List (Nat × Nat))) : Extent :=
  let start : Growth := ⟨.ofSlots 10000, e.add 1 0⟩
  (treeState e.states 4 products start).2.extent

/-- Make the states of a product that is read from its last range to its first. -/
def chainState (target : Nat) (product : List (Nat × Nat)) (g : Growth) : Nat × Growth :=
  product.foldl (fun (state, g) (lo, hi) => g.state [state, lo, hi] 0) (target, g)

/-- Add a choice between products, each read backwards, in which equal ends are one. -/
def withChains (e : Extent) (products : List (List (Nat × Nat))) : Extent :=
  let start : Growth := ⟨.ofSlots 1000, e.add 2 (choiceBytes * products.length)⟩
  (products.foldl (fun g product => (chainState (e.states + 1) product g).2) start).extent

/-- Add the states that read one character of a set. -/
def withSet (e : Extent) (direction : Direction) (set : CodeSet) : Extent :=
  if set.isAscii then e.add 2 (rangeBytes * set.ranges.length)
  else
    match direction with
    | .forward => e.withTree set.byteRanges
    | .backward => e.withChains set.byteRanges

/-! ### One of several words -/

/-- Cut a list of words where a word is empty; of the words between, the first bytes are split
off. -/
def sections : List (List Nat) → List (List (Nat × List Nat))
  | [] => [[]]
  | [] :: rest => [] :: sections rest
  | (byte :: tail) :: rest =>
    match sections rest with
    | [] => [[(byte, tail)]]
    | words :: others => ((byte, tail) :: words) :: others

/-- Leave out all empty words in front but one. -/
def oneEmpty (words : List (List Nat)) : List (List Nat) :=
  let rest := words.dropWhile List.isEmpty
  if rest.length = words.length then words else [] :: rest

/-- Add the states of a tree of words, none of which is longer than the height.  A word that ends
where others go on divides the words before it from those after it, because earlier words are
preferred. -/
def withWordTree : (height : Nat) → List (List Nat) → Extent → Extent
  | 0, _, e => e
  | height + 1, words, e =>
    let parts := sections (oneEmpty words)
    let filled := parts.filter (!·.isEmpty)
    if filled.isEmpty then e
    else
      let choices := filled.length + (parts.length - 1)
      filled.foldl (fun e part =>
        let bytes : List Nat := (part.map (·.1)).eraseDups
        let listBytes := if bytes.length = 1 then 0 else rangeBytes * bytes.length
        bytes.foldl (fun e byte =>
          let tails := part.filterMap fun (first, tail) => if first = byte then some tail else none
          withWordTree height tails e) (e.add 1 listBytes)) (e.add 1 (choiceBytes * choices))

/-- Add the states that read one of several words. -/
def withWords (e : Extent) (direction : Direction) (words : List (List Nat)) : Extent :=
  let words :=
    match direction with
    | .forward => words
    | .backward => words.map List.reverse
  withWordTree (words.foldl (fun height word => max height word.length) 0) words (e.add 1 0)

end Extent

end GovernedExpr
