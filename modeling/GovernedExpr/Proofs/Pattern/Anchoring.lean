import GovernedExpr.Pattern.Cost

/-!
# Matches of a whole text

A pattern between a start and an end of the text matches some stretch of a text if it matches the
text as a whole.

* `Pattern.isFullMatch` tells whether a pattern matches a text from its start to its end;
* `Pattern.anchored` puts a pattern between the two ends, `Written.anchored` a written one;
* `Switches.resolve?_anchored` says that the one is what the other means;
* `Pattern.isMatch_anchored` says that an anchored pattern matches whole texts.
-/

namespace GovernedExpr

open Text

/-! ### Places of a text -/

namespace Marks

/-- Only the start of a text is marked. -/
def atStart (text : List Char) : Marks :=
  true :: List.replicate text.length false

/-- Of the places of a text, only the start is marked. -/
theorem getElem?_atStart (text : List Char) (i : Nat) : (atStart text)[i]? = some true ↔ i = 0 := by
  cases i with
  | zero => simp [atStart]
  | succ i => simp [atStart, List.getElem?_replicate]

theorem zipWith_placesAfter_some (c : Char) (text : List Char) :
    List.zipWith (fun p marked => marked && Assertion.textStart.holds p)
      (placesAfter (some c) text) (List.replicate (text.length + 1) true) =
        List.replicate (text.length + 1) false := by
  induction text generalizing c with
  | nil => rfl
  | cons d text ih =>
    rw [placesAfter, List.length_cons, List.replicate_succ, List.zipWith_cons_cons, ih]
    rfl

/-- Of all places of a text, only the first one is its start. -/
theorem keep_textStart (text : List Char) :
    keep .textStart text (List.replicate (text.length + 1) true) = atStart text := by
  cases text with
  | nil => rfl
  | cons c text =>
    rw [keep, places, placesAfter, List.length_cons, List.replicate_succ, List.zipWith_cons_cons,
      zipWith_placesAfter_some]
    rfl

theorem any_zipWith_textEnd (before : Option Char) (text : List Char) (m : Marks) :
    (List.zipWith (fun p marked => marked && Assertion.textEnd.holds p)
      (placesAfter before text) m).any id = (m[text.length]? == some true) := by
  induction text generalizing before m with
  | nil =>
    cases m with
    | nil => rfl
    | cons b m => cases b <;> rfl
  | cons c text ih =>
    cases m with
    | nil => rfl
    | cons b m =>
      have inner : Assertion.textEnd.holds ⟨before, some c⟩ = false := rfl
      rw [placesAfter, List.zipWith_cons_cons, List.any_cons, ih, inner, Bool.and_false,
        List.length_cons, List.getElem?_cons_succ]
      rfl

/-- Of the marked places of a text, at most the last one is its end. -/
theorem any_keep_textEnd (text : List Char) (m : Marks) :
    (keep .textEnd text m).any id = (m[text.length]? == some true) :=
  any_zipWith_textEnd none text m

end Marks

/-! ### Anchored patterns -/

namespace Pattern

/-- Whether a pattern matches a text from its start to its end. -/
def isFullMatch (p : Pattern) (text : List Char) : Bool :=
  (p.reach text (Marks.atStart text))[text.length]? == some true

/-- A pattern between the start and the end of a text. -/
def anchored (p : Pattern) : Pattern :=
  .sequence (.assertion .textStart) (.sequence (.group false p) (.assertion .textEnd))

/-- **An anchored pattern matches a text if the pattern matches the whole text.** -/
theorem isMatch_anchored (p : Pattern) (text : List Char) :
    p.anchored.isMatch text = p.isFullMatch text := by
  simp only [isMatch, anchored, reach, Marks.keep_textStart, Marks.any_keep_textEnd, isFullMatch]

end Pattern

/-- A written pattern between anchors, in a group of its own. -/
def Written.anchored (w : Written) : Written :=
  .sequence [.assertion .lineStart, .group false .none w, .assertion .lineEnd]

theorem Written.depth_anchored (w : Written) : w.anchored.depth = w.depth + 2 := by
  simp only [anchored, depth, depthOfAll]
  omega

namespace Switches

/-- The switches of the start of a pattern, with which the group begins, do not let the anchors stand
for the ends of lines. -/
theorem resolve?_anchored (w : Written) :
    initial.resolve? w.anchored = (initial.resolve? w).map fun q => (q.1.anchored, initial) := by
  have unchanged : initial.change .none = initial := rfl
  simp only [Written.anchored, resolve?, resolveSequence?, Option.bind_eq_bind, Option.bind_some,
    unchanged]
  cases initial.resolve? w with
  | none => rfl
  | some q => rfl

end Switches

end GovernedExpr
