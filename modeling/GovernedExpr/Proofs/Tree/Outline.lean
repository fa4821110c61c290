import GovernedExpr.Proofs.Text.Lines
import GovernedExpr.Proofs.Tree.Preorder
import GovernedExpr.Tree.Lisp

/-!
# Reading an outline

The outline of a tree has a line for each node, in preorder, and for each operator one more line that
closes it.  If no label holds a line break, then these lines can be told apart: behind the blanks in
front, a line of a node starts with a parenthesis and a word, and what follows the word is the label,
whatever characters it consists of.  The lines that close operators are not needed.

* `Tree.lines` lists the lines of a tree, and `lisp_eq` says that these are the lines of its outline;
* `Label.ofLine?` reads the label of a line;
* `readLisp?` reads a tree off an outline, and `readLisp?_lisp` says that it finds the tree whose outline
  it is;
* `lisp_identifies` says that the outlines of different trees are different.
-/

namespace GovernedExpr

open CommandLine (linesText)
open Outline (indentation)

/-! ### The lines of an outline -/

namespace Label

/-- The text of a label: a value or an operator. -/
def text : Label → String
  | identifier name => name
  | number text => text
  | binary operator => operator
  | unary operator => operator

/-- The line of a label, without indentation. -/
def line : Label → String
  | identifier name => "(Identifier " ++ name ++ ")"
  | number text => "(Number " ++ text ++ ")"
  | binary operator => "(" ++ ("BinOp " ++ operator)
  | unary operator => "(" ++ ("UnaryOp " ++ operator)

end Label

namespace Tree

/-- The lines of a tree at a level of indentation. -/
def lines (level : Nat) : Tree → List String
  | .identifier name => [indentation level ++ (Label.identifier name).line]
  | .number text => [indentation level ++ (Label.number text).line]
  | .binary operator left right =>
    (indentation level ++ (Label.binary operator).line) ::
      (left.lines (level + 1) ++ right.lines (level + 1) ++ [indentation level ++ ")"])
  | .unary operator operand =>
    (indentation level ++ (Label.unary operator).line) ::
      (operand.lines (level + 1) ++ [indentation level ++ ")"])

end Tree

namespace Outline

theorem line_eq (content : String) (o : Outline) :
    o.line content = ⟨o.text ++ linesText [indentation o.level ++ content], o.level⟩ := by
  simp [line, String.append_assoc]

theorem opening_eq (head : String) (o : Outline) :
    o.opening head = ⟨o.text ++ linesText [indentation o.level ++ ("(" ++ head)], o.level + 1⟩ := by
  simp [opening, line_eq]

theorem closing_eq (o : Outline) :
    o.closing = ⟨o.text ++ linesText [indentation (o.level - 1) ++ ")"], o.level - 1⟩ := by
  rw [closing, line_eq]

end Outline

namespace Tree

/-- Writing a tree into an outline adds its lines and keeps the level. -/
theorem accept_visitor (t : Tree) (o : Outline) :
    t.accept Outline.visitor o = ⟨o.text ++ linesText (t.lines o.level), o.level⟩ := by
  induction t generalizing o with
  | identifier name => exact o.line_eq _
  | number text => exact o.line_eq _
  | binary operator left right ihl ihr =>
    show (right.accept Outline.visitor
      (left.accept Outline.visitor (o.opening ("BinOp " ++ operator)))).closing = _
    rw [Outline.opening_eq, ihl, ihr, Outline.closing_eq, lines]
    simp only [Label.line, CommandLine.linesText_cons, CommandLine.linesText_append,
      CommandLine.linesText_nil, String.append_assoc, Nat.add_sub_cancel, String.empty_append]
  | unary operator operand ih =>
    show (operand.accept Outline.visitor (o.opening ("UnaryOp " ++ operator))).closing = _
    rw [Outline.opening_eq, ih, Outline.closing_eq, lines]
    simp only [Label.line, CommandLine.linesText_cons, CommandLine.linesText_append,
      CommandLine.linesText_nil, String.append_assoc, Nat.add_sub_cancel, String.empty_append]

end Tree

/-- The lines of a tree inside the envelope, if it is present. -/
theorem lisp_eq (root : Option Tree) :
    lisp root = linesText ("(AST" :: (root.elim [] (Tree.lines 1) ++ [")"])) := by
  cases root with
  | none => rfl
  | some t =>
    simp [lisp, Tree.accept_visitor, Outline.opening, Outline.closing, Outline.line, Outline.empty,
      indentation, String.append_assoc]

/-- A line of a tree is the line of one of its labels, or closes an operator. -/
theorem Tree.mem_lines {t : Tree} {level : Nat} {line : String} (h : line ∈ t.lines level) :
    ∃ n, (∃ l ∈ t.preorder, line = indentation n ++ l.line) ∨ line = indentation n ++ ")" := by
  induction t generalizing level with
  | identifier name =>
    exact ⟨level, .inl ⟨_, List.mem_singleton_self _, List.mem_singleton.1 h⟩⟩
  | number text =>
    exact ⟨level, .inl ⟨_, List.mem_singleton_self _, List.mem_singleton.1 h⟩⟩
  | binary operator left right ihl ihr =>
    simp only [lines, List.mem_cons, List.mem_append, List.not_mem_nil, or_false] at h
    rcases h with rfl | (h | h) | rfl
    · exact ⟨level, .inl ⟨_, List.mem_cons_self, rfl⟩⟩
    · obtain ⟨n, ⟨l, hl, hline⟩ | closes⟩ := ihl h
      · exact ⟨n, .inl ⟨l, by simp [preorder, hl], hline⟩⟩
      · exact ⟨n, .inr closes⟩
    · obtain ⟨n, ⟨l, hl, hline⟩ | closes⟩ := ihr h
      · exact ⟨n, .inl ⟨l, by simp [preorder, hl], hline⟩⟩
      · exact ⟨n, .inr closes⟩
    · exact ⟨level, .inr rfl⟩
  | unary operator operand ih =>
    simp only [lines, List.mem_cons, List.mem_append, List.not_mem_nil, or_false] at h
    rcases h with rfl | h | rfl
    · exact ⟨level, .inl ⟨_, List.mem_cons_self, rfl⟩⟩
    · obtain ⟨n, ⟨l, hl, hline⟩ | closes⟩ := ih h
      · exact ⟨n, .inl ⟨l, by simp [preorder, hl], hline⟩⟩
      · exact ⟨n, .inr closes⟩
    · exact ⟨level, .inr rfl⟩

/-! ### The label of a line -/

namespace Label

/-- The label of a line that is opened by a word: leaves are closed on their line. -/
def ofHead? (head : String) (rest : List Char) : Option Label :=
  if head = "Identifier" then some (.identifier (.ofList rest.dropLast))
  else if head = "Number" then some (.number (.ofList rest.dropLast))
  else if head = "BinOp" then some (.binary (.ofList rest))
  else if head = "UnaryOp" then some (.unary (.ofList rest))
  else none

/-- The label of a line, if it is the line of a node: behind the blanks in front and a parenthesis,
the word up to the first blank tells the kind of the label, and the label stands behind this blank. -/
def ofLine? (line : String) : Option Label :=
  match line.toList.dropWhile (· = ' ') with
  | '(' :: rest =>
    ofHead? (.ofList (rest.takeWhile (· ≠ ' '))) ((rest.dropWhile (· ≠ ' ')).drop 1)
  | _ => none

@[simp] theorem ofLine?_indentation (level : Nat) (line : String) :
    ofLine? (indentation level ++ line) = ofLine? line := by
  simp [ofLine?, indentation]

@[simp] theorem ofLine?_line (l : Label) : ofLine? l.line = some l := by
  cases l with
  | identifier name => simp [line, ofLine?, ofHead?]
  | number text => simp [line, ofLine?, ofHead?]
  | binary operator => simp [line, ofLine?, ofHead?]
  | unary operator => simp [line, ofLine?, ofHead?]

@[simp] theorem ofLine?_closing : ofLine? ")" = none := rfl

end Label

/-- The labels of the lines of a tree are its labels in preorder. -/
theorem Tree.filterMap_lines (t : Tree) (level : Nat) :
    (t.lines level).filterMap Label.ofLine? = t.preorder := by
  induction t generalizing level with
  | identifier name => simp [lines, preorder]
  | number text => simp [lines, preorder]
  | binary operator left right ihl ihr => simp [lines, preorder, ihl, ihr]
  | unary operator operand ih => simp [lines, preorder, ih]

/-! ### Reading -/

/-- The labels of the lines of a text. -/
def lineLabels (text : String) : List Label :=
  (Text.linesOf text).filterMap Label.ofLine?

/-- Read a tree that may be absent off its outline. -/
def readLisp? (text : String) : Option (Option Tree) :=
  Tree.ofPreorder? (lineLabels text)

/-- No label of a tree holds a line break. -/
def Tree.IsUnbroken (t : Tree) : Prop :=
  ∀ l ∈ t.preorder, '\n' ∉ l.text.toList

instance (t : Tree) : Decidable t.IsUnbroken :=
  inferInstanceAs (Decidable (∀ l ∈ t.preorder, '\n' ∉ l.text.toList))

theorem Label.not_mem_line {l : Label} (h : '\n' ∉ l.text.toList) : '\n' ∉ l.line.toList := by
  cases l <;> simpa [line, text] using h

theorem Tree.IsUnbroken.not_mem_lines {t : Tree} (h : t.IsUnbroken) (level : Nat) :
    ∀ line ∈ t.lines level, '\n' ∉ line.toList := by
  intro line hline
  obtain ⟨n, ⟨l, hl, rfl⟩ | rfl⟩ := mem_lines hline
  · simpa [indentation] using Label.not_mem_line (h l hl)
  · simp [indentation]

variable {root root' : Option Tree}

/-- The labels of the lines of an outline are those of the tree. -/
theorem lineLabels_lisp (h : ∀ t ∈ root, t.IsUnbroken) :
    lineLabels (lisp root) = Tree.preorder? root := by
  have inside : ∀ line ∈ root.elim [] (Tree.lines 1), '\n' ∉ line.toList := by
    cases root with
    | none => exact nofun
    | some t => exact (h t rfl).not_mem_lines 1
  have unbroken : ∀ line ∈ "(AST" :: (root.elim [] (Tree.lines 1) ++ [")"]), '\n' ∉ line.toList := by
    intro line hline
    simp only [List.mem_cons, List.mem_append, List.not_mem_nil, or_false] at hline
    rcases hline with rfl | hline | rfl
    · decide
    · exact inside line hline
    · decide
  rw [lineLabels, lisp_eq, Text.linesOf_linesText unbroken]
  have envelope : Label.ofLine? "(AST" = none := rfl
  have behind : Label.ofLine? "" = none := rfl
  cases root with
  | none => simp [envelope, behind, Tree.preorder?]
  | some t => simp [envelope, behind, Tree.preorder?, Tree.filterMap_lines]

/-- **A tree is read off its outline**, if no label holds a line break. -/
theorem readLisp?_lisp (h : ∀ t ∈ root, t.IsUnbroken) : readLisp? (lisp root) = some root := by
  rw [readLisp?, lineLabels_lisp h, Tree.ofPreorder?_preorder?]

/-- **An outline identifies its tree.**  If no label holds a line break, then a tree is read off its
outline, and no other such tree has that outline; an absent tree counts like any other. -/
theorem lisp_identifies (h : ∀ t ∈ root, t.IsUnbroken) :
    readLisp? (lisp root) = some root ∧
      ∀ root' : Option Tree, (∀ t ∈ root', t.IsUnbroken) →
        (lisp root' = lisp root ↔ root' = root) := by
  refine ⟨readLisp?_lisp h, fun root' h' => ⟨fun same => ?_, fun same => by rw [same]⟩⟩
  have read := readLisp?_lisp h'
  rw [same, readLisp?_lisp h] at read
  exact (Option.some.inj read).symm

/-- Labels that look like lines of an outline: two trees that differ in a label and a node, and the
absent one. -/
theorem lisp_identifies_lookalike :
    let t : Tree := .binary ") (BinOp" (.identifier "x) (Number 2") (.unary "Number" (.number ")"))
    let u : Tree := .binary ") (BinOp" (.identifier "x) (Number 2") (.number "Number ) )")
    t.IsUnbroken ∧ u.IsUnbroken ∧ readLisp? (lisp (some t)) = some (some t) ∧
      lisp (some u) ≠ lisp (some t) ∧ lisp none ≠ lisp (some t) := by
  intro t u
  have ht : t.IsUnbroken := by decide
  have hu : u.IsUnbroken := by decide
  have present : ∀ t' ∈ some t, t'.IsUnbroken := by simpa using ht
  obtain ⟨read, identified⟩ := lisp_identifies present
  refine ⟨ht, hu, read, fun same => ?_, fun same => ?_⟩
  · have equal := (identified (some u) (by simpa using hu)).1 same
    simp [t, u] at equal
  · exact nomatch (identified none nofun).1 same

/-- Line breaks in labels may hide where a label ends. -/
example :
    lisp (some (.binary "+" (.identifier "a)\n    (Identifier b") (.identifier "c"))) =
      lisp (some (.binary "+" (.identifier "a") (.identifier "b)\n    (Identifier c"))) := by
  decide +kernel

end GovernedExpr
