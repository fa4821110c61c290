import GovernedExpr.Proofs.Tree.Outline
import GovernedExpr.Proofs.Tree.Touring

/-!
# The layout of an outline

An outline is written line by line while its level goes up and down.  The level is never taken below
zero, because each subtree leaves it as it was, and in the end it is zero again.  What is written is laid
out by the depth of the nodes alone, and its parentheses match, unless labels bring in their own.

* `Outline.act` lists what is done at the passages of a tree; `Outline.visitor_eq_touring` says that
  the visitor of outlines does this and nothing else;
* `Outline.act?` and `lisp?` stop where there is no level to go back to, and `lisp?_eq` says that this
  never happens; `Tree.level_pos_of_departure` says so of each departure on the tour;
* `Balanced` says that the parentheses of a text match, and `Tree.balanced_lines` that those of the lines
  of a tree do;
* `lisp_layout` puts these together.
-/

namespace GovernedExpr

open CommandLine (linesText)
open Outline (indentation)

/-! ### Levels -/

namespace Outline

/-- What is written at a passage, and how the level changes. -/
def act : Passage → Outline → Outline
  | .arrival (.identifier name) => line ("(Identifier " ++ name ++ ")")
  | .arrival (.number text) => line ("(Number " ++ text ++ ")")
  | .arrival (.binary operator) => opening ("BinOp " ++ operator)
  | .arrival (.unary operator) => opening ("UnaryOp " ++ operator)
  | .between _ => id
  | .departure _ => closing

theorem visitor_eq_touring : visitor = Visitor.touring act := rfl

/-- Go back one level and close the parenthesis there, if there is a level to go back to. -/
def closing? (o : Outline) : Option Outline :=
  if 0 < o.level then some o.closing else none

/-- What is done at a passage, where levels are only left that were entered. -/
def act? : Passage → Outline → Option Outline
  | .departure _, o => o.closing?
  | p, o => some (act p o)

theorem closing?_of_pos {o : Outline} (h : 0 < o.level) : o.closing? = some o.closing := if_pos h

theorem pos_of_closing? {o o' : Outline} (h : o.closing? = some o') : 0 < o.level := by
  by_contra lowest
  rw [closing?, if_neg lowest] at h
  cases h

theorem act_eq_of_act? {p : Passage} {o o' : Outline} (h : act? p o = some o') : act p o = o' := by
  cases p with
  | arrival l => exact Option.some.inj h
  | between l => exact Option.some.inj h
  | departure l =>
    rw [act?, closing?_of_pos (pos_of_closing? h)] at h
    exact Option.some.inj h

/-- Passages after which all levels that were left had been entered. -/
theorem foldl_act_of_foldl_act? {ps : List Passage} {x : Option Outline} {o' : Outline}
    (h : ps.foldl (fun x p => x.bind (act? p)) x = some o') :
    ∃ o, x = some o ∧ ps.foldl (fun o p => act p o) o = o' := by
  induction ps generalizing x with
  | nil => exact ⟨o', h, rfl⟩
  | cons p ps ih =>
    obtain ⟨next, done, rest⟩ := ih h
    obtain ⟨o, rfl, acted⟩ := Option.bind_eq_some_iff.1 done
    refine ⟨o, rfl, ?_⟩
    rw [List.foldl_cons, act_eq_of_act? acted, rest]

@[simp] theorem level_opening (head : String) (o : Outline) : (o.opening head).level = o.level + 1 := rfl

@[simp] theorem level_closing (o : Outline) : o.closing.level = o.level - 1 := rfl

end Outline

namespace Tree

/-- A tree leaves the level as it was. -/
theorem level_accept (t : Tree) (o : Outline) : (t.accept Outline.visitor o).level = o.level := by
  rw [accept_visitor]

/-- Each level that is left while a tree is written was entered before. -/
theorem accept_checked (t : Tree) (o : Outline) :
    t.accept (Visitor.touring fun p o => o.bind (Outline.act? p)) (some o) =
      some (t.accept Outline.visitor o) := by
  induction t generalizing o with
  | identifier name => rfl
  | number text => rfl
  | binary operator left right ihl ihr =>
    show Option.bind (right.accept _
      (Option.bind (left.accept _ (some (o.opening ("BinOp " ++ operator)))) _)) Outline.closing? = _
    rw [ihl]
    show Option.bind (right.accept _ (some (left.accept Outline.visitor _))) Outline.closing? = _
    rw [ihr, Option.bind_some, Outline.closing?_of_pos (by simp [level_accept])]
    rfl
  | unary operator operand ih =>
    show Option.bind (operand.accept _ (some (o.opening ("UnaryOp " ++ operator)))) Outline.closing? = _
    rw [ih, Option.bind_some, Outline.closing?_of_pos (by simp [level_accept])]
    rfl

/-- Wherever a node is departed from while a tree is written, there is a level to go back to. -/
theorem level_pos_of_departure {t : Tree} {before after : List Passage} {l : Label}
    (h : t.tour = before ++ .departure l :: after) (o : Outline) :
    0 < (before.foldl (fun o p => Outline.act p o) o).level := by
  have run := t.accept_checked o
  rw [accept_touring, h, List.foldl_append, List.foldl_cons] at run
  obtain ⟨left, departed, -⟩ := Outline.foldl_act_of_foldl_act? run
  obtain ⟨there, arrived, closed⟩ := Option.bind_eq_some_iff.1 departed
  obtain ⟨_, ⟨⟩, acted⟩ := Outline.foldl_act_of_foldl_act? arrived
  rw [acted]
  exact Outline.pos_of_closing? closed

end Tree

/-- The outline of a tree that may be absent, if each level that is left was entered before. -/
def lisp? (root : Option Tree) : Option Outline :=
  let o := some (Outline.empty.opening "AST")
  let o := match root with
    | none => o
    | some t => t.accept (Visitor.touring fun p o => o.bind (Outline.act? p)) o
  o.bind Outline.closing?

/-- **Levels are only left that were entered**, and in the end all are left. -/
theorem lisp?_eq (root : Option Tree) : lisp? root = some ⟨lisp root, 0⟩ := by
  cases root with
  | none => rfl
  | some t =>
    have level : (t.accept Outline.visitor (Outline.empty.opening "AST")).level = 1 := t.level_accept _
    calc lisp? (some t)
      _ = Option.bind (t.accept _ (some (Outline.empty.opening "AST"))) Outline.closing? := rfl
      _ = some (t.accept Outline.visitor (Outline.empty.opening "AST")).closing := by
        rw [t.accept_checked, Option.bind_some, Outline.closing?_of_pos (by omega)]
      _ = some ⟨lisp (some t), (t.accept Outline.visitor (Outline.empty.opening "AST")).level - 1⟩ := rfl
      _ = some ⟨lisp (some t), 0⟩ := by rw [level]

/-! ### Parentheses -/

/-- The parentheses of a text match: no beginning of it closes more of them than it opens, and all that are
opened are closed. -/
structure Balanced (cs : List Char) : Prop where
  le : ∀ front, front <+: cs → front.count ')' ≤ front.count '('
  eq : cs.count ')' = cs.count '('

/-- A beginning of two texts ends in the first one, or goes on in the second one. -/
theorem prefix_append_cases {front cs ds : List Char} (h : front <+: cs ++ ds) :
    front <+: cs ∨ ∃ more, front = cs ++ more ∧ more <+: ds := by
  rcases List.prefix_or_prefix_of_prefix h (List.prefix_append cs ds) with inside | ⟨more, rfl⟩
  · exact .inl inside
  · exact .inr ⟨more, rfl, (List.prefix_append_right_inj cs).1 h⟩

namespace Balanced

variable {cs ds : List Char}

theorem of_notMem (opens : '(' ∉ cs) (closes : ')' ∉ cs) : Balanced cs where
  le front h := by
    rw [List.count_eq_zero_of_not_mem fun member => closes (h.subset member)]
    exact Nat.zero_le _
  eq := by rw [List.count_eq_zero_of_not_mem opens, List.count_eq_zero_of_not_mem closes]

theorem append (h : Balanced cs) (h' : Balanced ds) : Balanced (cs ++ ds) where
  le front hfront := by
    rcases prefix_append_cases hfront with inside | ⟨more, rfl, hmore⟩
    · exact h.le front inside
    · rw [List.count_append, List.count_append, h.eq]
      exact Nat.add_le_add_left (h'.le more hmore) _
  eq := by rw [List.count_append, List.count_append, h.eq, h'.eq]

/-- A text is put in parentheses. -/
theorem enclose (h : Balanced cs) : Balanced ('(' :: (cs ++ [')'])) where
  le front hfront := by
    obtain rfl | ⟨behind, rfl, hbehind⟩ := List.prefix_cons_iff.1 hfront
    · exact Nat.le_refl _
    · -- the parenthesis in front makes up for the one behind
      rw [List.count_cons_of_ne (by decide), List.count_cons_self]
      rcases List.prefix_concat_iff.1 hbehind with rfl | inside
      · rw [List.count_append, List.count_append, h.eq]
        exact Nat.le_refl _
      · exact Nat.le_succ_of_le (h.le behind inside)
  eq := by simp [h.eq]

theorem indentation (level : Nat) : Balanced (Outline.indentation level).toList :=
  of_notMem (by simp [Outline.indentation]) (by simp [Outline.indentation])

theorem newline : Balanced ['\n'] := of_notMem (by decide) (by decide)

/-- A text in parentheses is put behind blanks, and a line is ended. -/
theorem block (level : Nat) (h : Balanced cs) :
    Balanced ((Outline.indentation level).toList ++ ('(' :: (cs ++ [')'])) ++ ['\n']) :=
  ((indentation level).append h.enclose).append newline

end Balanced

/-- A label holds no parenthesis. -/
def Label.IsPlain (l : Label) : Prop :=
  '(' ∉ l.text.toList ∧ ')' ∉ l.text.toList

/-- The head of a node without its parenthesis. -/
theorem Label.IsPlain.balanced {l : Label} (h : l.IsPlain) (head : String) (plain : '(' ∉ head.toList)
    (plain' : ')' ∉ head.toList) : Balanced (head ++ l.text).toList := by
  rw [String.toList_append]
  exact (Balanced.of_notMem plain plain').append (.of_notMem h.1 h.2)

/-- **The parentheses of the lines of a tree match**, if its labels hold none. -/
theorem Tree.balanced_lines {t : Tree} (h : ∀ l ∈ t.preorder, l.IsPlain) (level : Nat) :
    Balanced (linesText (t.lines level)).toList := by
  induction t generalizing level with
  | identifier name =>
    have plain := h (.identifier name) (List.mem_singleton_self _)
    convert (plain.balanced "Identifier " (by decide) (by decide)).block level using 1
    simp [lines, Label.line, Label.text]
  | number text =>
    have plain := h (.number text) (List.mem_singleton_self _)
    convert (plain.balanced "Number " (by decide) (by decide)).block level using 1
    simp [lines, Label.line, Label.text]
  | binary operator left right ihl ihr =>
    rw [preorder, List.forall_mem_cons, List.forall_mem_append] at h
    obtain ⟨plain, inLeft, inRight⟩ := h
    have head := (plain.balanced "BinOp " (by decide) (by decide)).append .newline
    have operands := (ihl inLeft (level + 1)).append (ihr inRight (level + 1))
    convert ((head.append operands).append (.indentation level)).block level using 1
    simp [lines, Label.line, Label.text]
  | unary operator operand ih =>
    rw [preorder, List.forall_mem_cons] at h
    obtain ⟨plain, inOperand⟩ := h
    have head := (plain.balanced "UnaryOp " (by decide) (by decide)).append .newline
    convert ((head.append (ih inOperand (level + 1))).append (.indentation level)).block level using 1
    simp [lines, Label.line, Label.text]

/-- **The layout of an outline.**  While an outline is written, there is a level to go back to whenever a node
is departed from, and also when the envelope is closed; in the end the level is zero.  The text is laid out by
the depth of the nodes: it consists of the lines of the tree, of which a node at depth `d` has one with `2 d`
blanks in front, an operator has its operands behind it and one more such line that closes it, and all stand
inside an envelope.  If no label holds a parenthesis, then the parentheses of the text match. -/
theorem lisp_layout (root : Option Tree) :
    (∀ t ∈ root, ∀ before l after, t.tour = before ++ .departure l :: after →
      0 < (before.foldl (fun o p => Outline.act p o) (Outline.empty.opening "AST")).level) ∧
    lisp? root = some ⟨lisp root, 0⟩ ∧
    lisp root = linesText ("(AST" :: (root.elim [] (Tree.lines 1) ++ [")"])) ∧
    (∀ d, (indentation d).toList = List.replicate (2 * d) ' ') ∧
    ((∀ t ∈ root, ∀ l ∈ t.preorder, '(' ∉ l.text.toList ∧ ')' ∉ l.text.toList) →
      (lisp root).toList.count ')' = (lisp root).toList.count '(' ∧
        ∀ front, front <+: (lisp root).toList → front.count ')' ≤ front.count '(') := by
  refine ⟨fun t _ before l after h => t.level_pos_of_departure h _, lisp?_eq root, lisp_eq root,
    fun d => by simp [indentation], fun plain => ?_⟩
  have inside : Balanced (linesText (root.elim [] (Tree.lines 1))).toList := by
    cases root with
    | none => exact .of_notMem (by decide) (by decide)
    | some t => exact Tree.balanced_lines (plain t rfl) 1
  have head : Balanced "AST\n".toList := .of_notMem (by decide) (by decide)
  have envelope := (head.append inside).block 0
  have balanced : Balanced (lisp root).toList := by
    rw [lisp_eq]
    convert envelope using 1
    simp [indentation]
  exact ⟨balanced.eq, balanced.le⟩

/-- Signs inside an operator, and labels of several lines. -/
theorem lisp_layout_signed :
    let t : Tree := .binary "*" (.unary "-" (.identifier "x\ny")) (.unary "-" (.unary "-" (.number "2")))
    lisp? (some t) = some ⟨lisp (some t), 0⟩ ∧
      (∀ l ∈ t.preorder, '(' ∉ l.text.toList ∧ ')' ∉ l.text.toList) ∧
      (lisp (some t)).toList.count ')' = (lisp (some t)).toList.count '(' ∧
      ∀ front, front <+: (lisp (some t)).toList → front.count ')' ≤ front.count '(' := by
  intro t
  have plain : ∀ l ∈ t.preorder, '(' ∉ l.text.toList ∧ ')' ∉ l.text.toList := by decide
  obtain ⟨-, levels, -, -, balanced⟩ := lisp_layout (some t)
  exact ⟨levels, plain, balanced (by simpa using plain)⟩

/-- A label may close what was never opened. -/
example : ¬ Balanced (lisp (some (.identifier "x))) (AST("))).toList := fun h =>
  absurd (h.le "(AST\n  (Identifier x)))".toList (by decide +kernel)) (by decide)

end GovernedExpr
