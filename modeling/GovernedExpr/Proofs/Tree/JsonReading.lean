import GovernedExpr.Format.Registry
import GovernedExpr.Proofs.Tree.JsonPieces

/-!
# Reading exported trees

The text that a tree is exported to is JSON from which the tree can be told.

* `Json.Due` is the state of a reader of pieces, `Json.Due.take?` its step on a piece, and
  `Json.foldlM_take?_pieces` says that it reads a value off the pieces of this value;
* `Json.read?` reads a text, however its pieces are laid out;
* `Json.laid_pretty` says that the indented text of a value lays out its pieces;
* `Tree.toJson_injective` says that a tree can be told from its tagged objects;
* `json_lossless` puts these together.
-/

namespace GovernedExpr

namespace Json

/-! ### The pieces of a value -/

mutual

/-- The pieces of a value. -/
def pieces : Json → List Piece
  | .null => [.null]
  | .string text => [.string text]
  | .object (key, value) others =>
    .opening :: .string key :: .colon :: (pieces value ++ piecesOthers others)

/-- The pieces of the fields after the first, and the closing brace. -/
def piecesOthers : List (String × Json) → List Piece
  | [] => [.closing]
  | (key, value) :: others =>
    .comma :: .string key :: .colon :: (pieces value ++ piecesOthers others)

end

theorem laid_newline (level : Nat) {cs : List Char} {ps : List Piece} (h : Laid cs ps) :
    Laid (newline level ++ cs) ps := by
  refine .space rfl ?_
  induction 2 * level with
  | zero => exact h
  | succ n ih => exact .space rfl ih

/-- A line break, the key of a field and a colon lay out the key and the colon. -/
theorem laid_field (level : Nat) (key : String) {cs : List Char} {ps : List Piece} (h : Laid cs ps) :
    Laid (newline level ++ (quoted key ++ ':' :: ' ' :: cs)) (.string key :: .colon :: ps) :=
  laid_newline level (.piece (.string key) (.piece .colon (.space rfl h)))

mutual

/-- **The indented text of a value lays out its pieces**, at each level of indentation. -/
theorem laid_pretty (level : Nat) (v : Json) {cs : List Char} {ps : List Piece} (h : Laid cs ps) :
    Laid (pretty level v ++ cs) (pieces v ++ ps) := by
  cases v with
  | null => exact .piece .null h
  | string text => exact .piece (.string text) h
  | object first others =>
    obtain ⟨key, value⟩ := first
    have inner := laid_pretty (level + 1) value (laid_prettyOthers level others h)
    simpa [pretty, pieces, Piece.text] using Laid.piece .opening (laid_field (level + 1) key inner)

theorem laid_prettyOthers (level : Nat) (others : List (String × Json)) {cs : List Char}
    {ps : List Piece} (h : Laid cs ps) :
    Laid (prettyOthers level others ++ cs) (piecesOthers others ++ ps) := by
  cases others with
  | nil => simpa [prettyOthers, piecesOthers, Piece.text] using laid_newline level (.piece .closing h)
  | cons first others =>
    obtain ⟨key, value⟩ := first
    have inner := laid_pretty (level + 1) value (laid_prettyOthers level others h)
    simpa [prettyOthers, piecesOthers, Piece.text] using Laid.piece .comma (laid_field (level + 1) key inner)

end

mutual

/-- **The spelling of the pieces of a value is its compact text.** -/
theorem flatMap_text_pieces (v : Json) : (pieces v).flatMap Piece.text = compact v := by
  cases v with
  | null => rfl
  | string text => simp [pieces, compact, Piece.text]
  | object first others =>
    obtain ⟨key, value⟩ := first
    simp [pieces, compact, Piece.text, flatMap_text_pieces value, flatMap_text_piecesOthers others]

theorem flatMap_text_piecesOthers (others : List (String × Json)) :
    (piecesOthers others).flatMap Piece.text = compactOthers others := by
  cases others with
  | nil => rfl
  | cons first others =>
    obtain ⟨key, value⟩ := first
    simp [piecesOthers, compactOthers, Piece.text, flatMap_text_pieces value,
      flatMap_text_piecesOthers others]

end

/-! ### Reading the pieces of a value -/

/-- An object whose closing brace has not been read: the fields so far, and the key of the field that is
being read. -/
structure OpenObject where
  fields : List (String × Json)
  key : String

/-- What is due while a value is read.  The objects around it are open, the innermost first. -/
inductive Due
  /-- A value. -/
  | value (objects : List OpenObject)
  /-- The key of a field, in the object with the fields so far. -/
  | key (fields : List (String × Json)) (objects : List OpenObject)
  /-- The colon behind a key. -/
  | colon (o : OpenObject) (objects : List OpenObject)
  /-- A comma or the closing brace, in the object with the fields so far. -/
  | mark (fields : List (String × Json)) (objects : List OpenObject)
  /-- Nothing, as the value is complete. -/
  | nothing (v : Json)

namespace Due

/-- What is due behind a value: it is that of a field of the innermost object, if there is one. -/
def after (v : Json) : List OpenObject → Due
  | [] => nothing v
  | o :: objects => mark (o.fields ++ [(o.key, v)]) objects

/-- Read a piece.  A brace may not close an object that has no field. -/
def take? : Due → Piece → Option Due
  | value objects, .null => some (after .null objects)
  | value objects, .string text => some (after (.string text) objects)
  | value objects, .opening => some (key [] objects)
  | key fields objects, .string text => some (colon ⟨fields, text⟩ objects)
  | colon o objects, .colon => some (value (o :: objects))
  | mark fields objects, .comma => some (key fields objects)
  | mark (first :: others) objects, .closing => some (after (.object first others) objects)
  | _, _ => none

end Due

mutual

/-- The pieces of a value are read where a value is due, and give the value. -/
theorem foldlM_take?_pieces (v : Json) (objects : List OpenObject) :
    (pieces v).foldlM Due.take? (.value objects) = some (.after v objects) := by
  cases v with
  | null => rfl
  | string text => rfl
  | object first others =>
    obtain ⟨key, value⟩ := first
    simp [pieces, Due.take?, foldlM_take?_pieces value, Due.after,
      foldlM_take?_piecesOthers others]

theorem foldlM_take?_piecesOthers (others : List (String × Json)) (first : String × Json)
    (before : List (String × Json)) (objects : List OpenObject) :
    (piecesOthers others).foldlM Due.take? (.mark (first :: before) objects) =
      some (.after (.object first (before ++ others)) objects) := by
  cases others with
  | nil => simp [piecesOthers, Due.take?]
  | cons next others =>
    obtain ⟨key, value⟩ := next
    simp [piecesOthers, Due.take?, foldlM_take?_pieces value, Due.after,
      foldlM_take?_piecesOthers others]

end

/-- Read the value that a text writes. -/
def read? (text : String) : Option Json := do
  match ← (← pieces? text.toList).foldlM Due.take? (.value []) with
  | .nothing v => some v
  | _ => none

/-- **A value is read off each layout of its pieces.** -/
theorem read?_of_laid {text : String} {v : Json} (h : Laid text.toList (pieces v)) :
    read? text = some v := by
  rw [read?, h.pieces?_eq]
  simp [foldlM_take?_pieces, Due.after]

end Json

/-! ### Trees -/

/-- **A tree can be told from its tagged objects.** -/
theorem Tree.toJson_injective : Function.Injective Tree.toJson := by
  intro t t' same
  induction t generalizing t' with
  | identifier name =>
    cases t' with
    | identifier name' => simpa [toJson] using same
    | number | binary | unary => simp [toJson] at same
  | number text =>
    cases t' with
    | number text' => simpa [toJson] using same
    | identifier | binary | unary => simp [toJson] at same
  | binary operator left right ihl ihr =>
    cases t' with
    | binary operator' left' right' =>
      simp only [toJson, Json.object.injEq, List.cons.injEq, Prod.mk.injEq, Json.string.injEq,
        true_and, and_true] at same
      rw [same.1, ihl same.2.1, ihr same.2.2]
    | identifier | number | unary => simp [toJson] at same
  | unary operator operand ih =>
    cases t' with
    | unary operator' operand' =>
      simp only [toJson, Json.object.injEq, List.cons.injEq, Prod.mk.injEq, Json.string.injEq,
        true_and, and_true] at same
      rw [same.1, ih same.2]
    | identifier | number | binary => simp [toJson] at same

theorem Tree.toJson_ne_null (t : Tree) : t.toJson ≠ .null := by
  cases t <;> exact nofun

theorem jsonOf_injective : Function.Injective jsonOf := by
  rintro (_ | t) (_ | t') same
  · rfl
  · exact absurd same.symm t'.toJson_ne_null
  · exact absurd same t.toJson_ne_null
  · rw [Tree.toJson_injective same]

/-- The exported text of a tree lays out the pieces of its value. -/
theorem laid_prettyJson (root : Option Tree) :
    Json.Laid (prettyJson root).toList (jsonOf root).pieces := by
  simpa [prettyJson] using Json.laid_pretty 0 (jsonOf root) (.space rfl .nil)

/-- **The export to JSON loses nothing.**  What is exported is JSON that reads as the tagged objects of
the tree, or as null if it is absent; no other tree is exported to the same text.  Without the spaces
outside its strings the text is the compact one of the tree. -/
theorem json_lossless (root : Option Tree) :
    ∃ text, Formatter.json.render root = .ok text ∧ Json.read? text = some (jsonOf root) ∧
      (∀ root' : Option Tree, Formatter.json.render root' = .ok text → root' = root) ∧
      Json.unspaced text = root.elim "null" Tree.compactJson := by
  have read : ∀ root : Option Tree, Json.read? (prettyJson root) = some (jsonOf root) :=
    fun root => Json.read?_of_laid (laid_prettyJson root)
  refine ⟨prettyJson root, rfl, read root, fun root' same => ?_, ?_⟩
  · have texts : prettyJson root' = prettyJson root := Except.ok.inj same
    have values := read root'
    rw [texts, read root] at values
    exact (jsonOf_injective (Option.some.inj values)).symm
  · rw [Json.unspaced, (laid_prettyJson root).unspacedFrom_eq, Json.flatMap_text_pieces]
    cases root <;> rfl

end GovernedExpr
