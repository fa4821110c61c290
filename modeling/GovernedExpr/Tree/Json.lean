import GovernedExpr.Tree.Basic

/-!
# Trees as JSON

A node is an object whose first field `type` tells the variant, with the texts and the children
as its other fields.  An absent tree is `null`.

* `Json` holds the values that occur: null, strings and objects with at least one field;
* `Json.quoted` is the text of a string: quotes and backslashes are escaped, the control
  characters below U+0020 are escaped, all else stands as it is;
* `Json.compact` writes a value without blanks, `Json.pretty` with one field a line and two
  blanks for each level;
* `Tree.toJson` is the value of a tree.
-/

namespace GovernedExpr

/-- The fragment of JSON that trees are exported to. -/
inductive Json
  | null
  | string (text : String)
  | object (first : String × Json) (others : List (String × Json))

namespace Json

/-- A lower-case hexadecimal digit. -/
def hexDigit (n : Nat) : Char :=
  if n < 10 then Char.ofNat ('0'.toNat + n) else Char.ofNat ('a'.toNat + (n - 10))

/-- The characters that stand for one character of a string. -/
def escape (c : Char) : List Char :=
  match c with
  | '"' => ['\\', '"']
  | '\\' => ['\\', '\\']
  | '\x08' => ['\\', 'b']
  | '\x09' => ['\\', 't']
  | '\x0a' => ['\\', 'n']
  | '\x0c' => ['\\', 'f']
  | '\x0d' => ['\\', 'r']
  | c =>
    if c.toNat < 0x20 then
      ['\\', 'u', '0', '0', hexDigit (c.toNat / 16), hexDigit (c.toNat % 16)]
    else [c]

/-- The text of a string, in quotes. -/
def quoted (s : String) : List Char :=
  '"' :: (s.toList.flatMap escape ++ ['"'])

mutual

/-- The text of a value without blanks. -/
def compact : Json → List Char
  | .null => ['n', 'u', 'l', 'l']
  | .string text => quoted text
  | .object (key, value) others =>
    '{' :: (quoted key ++ ':' :: compact value ++ compactOthers others)

/-- The fields after the first, and the closing brace. -/
def compactOthers : List (String × Json) → List Char
  | [] => ['}']
  | (key, value) :: others => ',' :: (quoted key ++ ':' :: compact value ++ compactOthers others)

end

/-- A line break and the indentation of the next line. -/
def newline (level : Nat) : List Char :=
  '\n' :: List.replicate (2 * level) ' '

mutual

/-- The text of a value with one field a line, at a level of indentation. -/
def pretty (level : Nat) : Json → List Char
  | .null => ['n', 'u', 'l', 'l']
  | .string text => quoted text
  | .object (key, value) others =>
    '{' :: (newline (level + 1) ++ quoted key ++ ':' :: ' ' :: pretty (level + 1) value ++
      prettyOthers level others)

/-- The fields after the first, and the closing brace. -/
def prettyOthers (level : Nat) : List (String × Json) → List Char
  | [] => newline level ++ ['}']
  | (key, value) :: others =>
    ',' :: (newline (level + 1) ++ quoted key ++ ':' :: ' ' :: pretty (level + 1) value ++
      prettyOthers level others)

end

end Json

namespace Tree

/-- The tagged objects of a tree. -/
def toJson : Tree → Json
  | .identifier name => .object ("type", .string "identifier") [("value", .string name)]
  | .number text => .object ("type", .string "number") [("value", .string text)]
  | .binary operator left right =>
    .object ("type", .string "binary_op")
      [("operator", .string operator), ("left", left.toJson), ("right", right.toJson)]
  | .unary operator operand =>
    .object ("type", .string "unary_op")
      [("operator", .string operator), ("operand", operand.toJson)]

end Tree

/-- The value of a tree that may be absent. -/
def jsonOf : Option Tree → Json
  | none => .null
  | some t => t.toJson

/-- The compact text of a tree. -/
def Tree.compactJson (t : Tree) : String :=
  String.ofList t.toJson.compact

/-- The indented text of a tree that may be absent, ended by a line break. -/
def prettyJson (root : Option Tree) : String :=
  String.ofList ((jsonOf root).pretty 0 ++ ['\n'])

end GovernedExpr
