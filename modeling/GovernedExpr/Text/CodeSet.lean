/-!
# Sets of code points

A `CodeSet` is a list of closed ranges of code points in ascending order, any two of them
separated by a gap.

* `CodeSet.IsSparse` says so of ranges; the ranges of every set are sparse;
* `CodeSet.insert` adds a range and joins what it touches, `CodeSet.ofRanges` adds many;
* `CodeSet.union`, `CodeSet.complement`, `CodeSet.inter`, `CodeSet.diff` and `CodeSet.symmDiff`
  are the Boolean operations, the complement being taken among the characters;
* `CodeSet.negation` is what a negated class stands for;
* `CodeSet.contains` is membership.
-/

namespace GovernedExpr.Text

/-- The number of code points. -/
def codeLimit : Nat := 0x110000

/-- The first code point that is no character, but one half of a pair. -/
def surrogateFirst : Nat := 0xD800

/-- The last code point that is no character, but one half of a pair. -/
def surrogateLast : Nat := 0xDFFF

namespace CodeSet

/-- Ranges that are not empty, in ascending order and with gaps between them. -/
def IsSparse (ranges : List (Nat × Nat)) : Prop :=
  (∀ r ∈ ranges, r.1 ≤ r.2) ∧ ranges.Pairwise fun r q => r.2 + 1 < q.1

theorem isSparse_nil : IsSparse [] :=
  ⟨nofun, .nil⟩

theorem isSparse_singleton {r : Nat × Nat} (h : r.1 ≤ r.2) : IsSparse [r] :=
  ⟨by simpa using h, List.pairwise_singleton _ _⟩

theorem isSparse_cons {r : Nat × Nat} {ranges : List (Nat × Nat)} :
    IsSparse (r :: ranges) ↔ r.1 ≤ r.2 ∧ (∀ q ∈ ranges, r.2 + 1 < q.1) ∧ IsSparse ranges := by
  simp only [IsSparse, List.forall_mem_cons, List.pairwise_cons]
  constructor
  · rintro ⟨⟨le, les⟩, behind, apart⟩
    exact ⟨le, behind, les, apart⟩
  · rintro ⟨le, behind, les, apart⟩
    exact ⟨⟨le, les⟩, behind, apart⟩

/-- Ranges that are narrowed stay sparse. -/
theorem IsSparse.filterMap {ranges : List (Nat × Nat)} (h : IsSparse ranges)
    {f : Nat × Nat → Option (Nat × Nat)}
    (narrows : ∀ r q, f r = some q → r.1 ≤ q.1 ∧ q.1 ≤ q.2 ∧ q.2 ≤ r.2) :
    IsSparse (ranges.filterMap f) := by
  refine ⟨fun q hq => ?_, List.pairwise_filterMap.2 (h.2.imp fun apart q hq q' hq' => ?_)⟩
  · obtain ⟨r, -, hr⟩ := List.mem_filterMap.1 hq
    exact (narrows r q hr).2.1
  · have first := narrows _ q hq
    have second := narrows _ q' hq'
    omega

end CodeSet

/-- A set of code points, as ascending ranges with gaps between them. -/
structure CodeSet where
  ranges : List (Nat × Nat)
  isSparse : CodeSet.IsSparse ranges
  deriving DecidableEq

namespace CodeSet

/-- No code points. -/
def empty : CodeSet := ⟨[], isSparse_nil⟩

instance : Inhabited CodeSet := ⟨empty⟩

/-- All code points. -/
def full : CodeSet := ⟨[(0, codeLimit - 1)], isSparse_singleton (Nat.zero_le _)⟩

/-- Add a range to ascending ranges, joining the ranges that it touches. -/
def insertRange (lo hi : Nat) : List (Nat × Nat) → List (Nat × Nat)
  | [] => [(lo, hi)]
  | (a, b) :: rest =>
    if hi + 1 < a then (lo, hi) :: (a, b) :: rest
    else if b + 1 < lo then (a, b) :: insertRange lo hi rest
    else insertRange (min lo a) (max hi b) rest

/-- What ends in front of a range and of some ranges ends in front of all that the one makes of the
others. -/
theorem lt_of_mem_insertRange {lo hi n : Nat} {ranges : List (Nat × Nat)} (first : n < lo)
    (behind : ∀ q ∈ ranges, n < q.1) : ∀ q ∈ insertRange lo hi ranges, n < q.1 := by
  induction ranges generalizing lo hi with
  | nil => simpa [insertRange] using first
  | cons r rest ih =>
    obtain ⟨a, b⟩ := r
    rw [List.forall_mem_cons] at behind
    unfold insertRange
    split
    · exact List.forall_mem_cons.2 ⟨first, List.forall_mem_cons.2 behind⟩
    · split
      · exact List.forall_mem_cons.2 ⟨behind.1, ih first behind.2⟩
      · exact ih (by have := behind.1; omega) behind.2

theorem isSparse_insertRange {lo hi : Nat} {ranges : List (Nat × Nat)} (h : IsSparse ranges)
    (le : lo ≤ hi) : IsSparse (insertRange lo hi ranges) := by
  induction ranges generalizing lo hi with
  | nil => exact isSparse_singleton le
  | cons r rest ih =>
    obtain ⟨a, b⟩ := r
    obtain ⟨le', behind, sparse⟩ := isSparse_cons.1 h
    unfold insertRange
    split
    next before =>
      refine isSparse_cons.2 ⟨le, List.forall_mem_cons.2 ⟨before, fun q hq => ?_⟩, h⟩
      have := behind q hq
      omega
    next =>
      split
      next after =>
        exact isSparse_cons.2 ⟨le', lt_of_mem_insertRange after behind, ih sparse le⟩
      next => exact ih sparse (by omega)

/-- Add a range, if it is not empty. -/
def insert (s : CodeSet) (lo hi : Nat) : CodeSet :=
  if le : lo ≤ hi then ⟨insertRange lo hi s.ranges, isSparse_insertRange s.isSparse le⟩ else s

/-- The union of ranges, given in any order. -/
def ofRanges (ranges : List (Nat × Nat)) : CodeSet :=
  ranges.foldr (fun r s => s.insert r.1 r.2) empty

/-- The code points from `lo` to `hi`. -/
def range (lo hi : Nat) : CodeSet := empty.insert lo hi

/-- One code point. -/
def single (c : Nat) : CodeSet := range c c

@[simp] theorem ranges_single (c : Nat) : (single c).ranges = [(c, c)] := by
  simp [single, range, insert, empty, insertRange]

/-- The union of two ascending lists of ranges: the ranges of the second are added to the
first. -/
def union (s t : CodeSet) : CodeSet :=
  t.ranges.foldl (fun s r => s.insert r.1 r.2) s

/-- The gaps between ascending ranges, from a code point on. -/
def gaps (start limit : Nat) : List (Nat × Nat) → List (Nat × Nat)
  | [] => if start < limit then [(start, limit - 1)] else []
  | (a, b) :: rest =>
    if start < a then (start, a - 1) :: gaps (b + 1) limit rest else gaps (b + 1) limit rest

theorem le_of_mem_gaps {start limit : Nat} {ranges : List (Nat × Nat)} (h : IsSparse ranges)
    (behind : ∀ q ∈ ranges, start ≤ q.1) : ∀ q ∈ gaps start limit ranges, start ≤ q.1 := by
  induction ranges generalizing start with
  | nil =>
    unfold gaps
    split <;> simp
  | cons r rest ih =>
    obtain ⟨a, b⟩ := r
    obtain ⟨le, apart, sparse⟩ := isSparse_cons.1 h
    have start_le : start ≤ a := (List.forall_mem_cons.1 behind).1
    have rest_le : ∀ q ∈ gaps (b + 1) limit rest, start ≤ q.1 := fun q hq => by
      have := ih sparse (fun q hq => Nat.le_of_lt (apart q hq)) q hq
      simp only at le
      omega
    unfold gaps
    split
    · exact List.forall_mem_cons.2 ⟨Nat.le_refl _, rest_le⟩
    · exact rest_le

theorem isSparse_gaps {start limit : Nat} {ranges : List (Nat × Nat)} (h : IsSparse ranges) :
    IsSparse (gaps start limit ranges) := by
  induction ranges generalizing start with
  | nil =>
    unfold gaps
    split
    · exact isSparse_singleton (by simp only; omega)
    · exact isSparse_nil
  | cons r rest ih =>
    obtain ⟨a, b⟩ := r
    obtain ⟨le, apart, sparse⟩ := isSparse_cons.1 h
    unfold gaps
    split
    · refine isSparse_cons.2 ⟨by simp only; omega, fun q hq => ?_, ih sparse⟩
      have := le_of_mem_gaps sparse (fun q hq => Nat.le_of_lt (apart q hq)) q hq
      simp only at le ⊢
      omega
    · exact ih sparse

/-- The code points below a limit that are not in the set. -/
def complementBelow (limit : Nat) (s : CodeSet) : CodeSet :=
  ⟨gaps 0 limit s.ranges, isSparse_gaps s.isSparse⟩

/-- The characters of a range, if there are any: the code points from `surrogateFirst` to
`surrogateLast` are no characters, and are left out at its ends. -/
def charRange? (r : Nat × Nat) : Option (Nat × Nat) :=
  let isSurrogate (c : Nat) : Bool := surrogateFirst ≤ c && c ≤ surrogateLast
  let lo := if isSurrogate r.1 then surrogateLast + 1 else r.1
  let hi := if isSurrogate r.2 then surrogateFirst - 1 else r.2
  if lo ≤ hi then some (lo, hi) else none

theorem narrows_charRange? {r q : Nat × Nat} (h : charRange? r = some q) :
    r.1 ≤ q.1 ∧ q.1 ≤ q.2 ∧ q.2 ≤ r.2 := by
  unfold charRange? surrogateFirst surrogateLast at h
  grind

/-- The characters that are not in the set. -/
def complement (s : CodeSet) : CodeSet :=
  ⟨(s.complementBelow codeLimit).ranges.filterMap charRange?,
    (s.complementBelow codeLimit).isSparse.filterMap fun _ _ => narrows_charRange?⟩

/-- Whether the characters on both sides of the surrogates end a range of the set each. -/
def meetsSurrogates (s : CodeSet) : Bool :=
  s.ranges.any (·.2 = surrogateFirst - 1) && s.ranges.any (·.1 = surrogateLast + 1)

/-- The set that a negated class stands for.  Between two ranges that meet the surrogates from both
sides there is a gap without characters; the negated class has the borders of this gap. -/
def negation (s : CodeSet) : CodeSet :=
  if s.meetsSurrogates then s.complement.insert (surrogateFirst - 1) (surrogateLast + 1)
  else s.complement

/-- The code points that two ranges have in common, if there are any. -/
def overlap? (r q : Nat × Nat) : Option (Nat × Nat) :=
  let lo := max r.1 q.1
  let hi := min r.2 q.2
  if lo ≤ hi then some (lo, hi) else none

theorem within_overlap? {r q c : Nat × Nat} (h : overlap? r q = some c) :
    (r.1 ≤ c.1 ∧ c.2 ≤ r.2) ∧ q.1 ≤ c.1 ∧ c.1 ≤ c.2 ∧ c.2 ≤ q.2 := by
  unfold overlap? at h
  simp only [Option.ite_none_right_eq_some, Option.some.injEq] at h
  obtain ⟨le, rfl⟩ := h
  simp only
  omega

/-- What the ranges of a sparse list have in common with those of another one is sparse. -/
theorem isSparse_overlaps {ranges others : List (Nat × Nat)} (h : IsSparse ranges)
    (h' : IsSparse others) :
    IsSparse (ranges.flatMap fun r => others.filterMap (overlap? r)) := by
  have within {r c : Nat × Nat} (hc : c ∈ others.filterMap (overlap? r)) : r.1 ≤ c.1 ∧ c.2 ≤ r.2 := by
    obtain ⟨q, -, found⟩ := List.mem_filterMap.1 hc
    exact (within_overlap? found).1
  induction ranges with
  | nil => exact isSparse_nil
  | cons r rest ih =>
    obtain ⟨-, apart, sparse⟩ := isSparse_cons.1 h
    have first : IsSparse (others.filterMap (overlap? r)) :=
      h'.filterMap fun q c found => (within_overlap? found).2
    refine ⟨fun c hc => ?_, ?_⟩
    · rw [List.flatMap_cons, List.mem_append] at hc
      exact hc.elim (first.1 c) ((ih sparse).1 c)
    · rw [List.flatMap_cons, List.pairwise_append]
      refine ⟨first.2, (ih sparse).2, fun c hc c' hc' => ?_⟩
      obtain ⟨r', hr', hc'⟩ := List.mem_flatMap.1 hc'
      have := within hc
      have := within hc'
      have := apart r' hr'
      omega

/-- The code points in both sets. -/
def inter (s t : CodeSet) : CodeSet :=
  ⟨s.ranges.flatMap fun r => t.ranges.filterMap (overlap? r), isSparse_overlaps s.isSparse t.isSparse⟩

/-- The code points in the first set only. -/
def diff (s t : CodeSet) : CodeSet :=
  s.inter t.complement

/-- The code points in exactly one of the sets. -/
def symmDiff (s t : CodeSet) : CodeSet :=
  (s.diff t).union (t.diff s)

/-- Membership in ascending ranges. -/
def containsIn (c : Nat) : List (Nat × Nat) → Bool
  | [] => false
  | (lo, hi) :: rest => lo ≤ c && (c ≤ hi || containsIn c rest)

/-- Membership of a code point. -/
def contains (s : CodeSet) (c : Nat) : Bool :=
  containsIn c s.ranges

theorem containsIn_iff {c : Nat} {ranges : List (Nat × Nat)} (h : IsSparse ranges) :
    containsIn c ranges = true ↔ ∃ r ∈ ranges, r.1 ≤ c ∧ c ≤ r.2 := by
  induction ranges with
  | nil => simp [containsIn]
  | cons r rest ih =>
    obtain ⟨lo, hi⟩ := r
    obtain ⟨le, apart, sparse⟩ := isSparse_cons.1 h
    simp only [containsIn, Bool.and_eq_true, Bool.or_eq_true, decide_eq_true_eq, ih sparse,
      List.mem_cons, exists_eq_or_imp]
    -- a later range starts behind the first one
    have behind : (∃ r ∈ rest, r.1 ≤ c ∧ c ≤ r.2) → lo ≤ c := by
      rintro ⟨r, hr, le_c, -⟩
      have := apart r hr
      simp only at le this
      omega
    constructor
    · rintro ⟨lo_le, le_hi | later⟩
      · exact .inl ⟨lo_le, le_hi⟩
      · exact .inr later
    · rintro (⟨lo_le, le_hi⟩ | later)
      · exact ⟨lo_le, .inl le_hi⟩
      · exact ⟨behind later, .inr later⟩

/-- The members of a set are those of its ranges. -/
theorem contains_iff {s : CodeSet} {c : Nat} :
    s.contains c = true ↔ ∃ r ∈ s.ranges, r.1 ≤ c ∧ c ≤ r.2 :=
  containsIn_iff s.isSparse

/-- Membership of a character. -/
def has (s : CodeSet) (c : Char) : Bool :=
  s.contains c.toNat

/-- Whether there are no code points in the set. -/
def isEmpty (s : CodeSet) : Bool :=
  s.ranges.isEmpty

end CodeSet

end GovernedExpr.Text
