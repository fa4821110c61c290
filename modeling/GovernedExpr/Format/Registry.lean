import GovernedExpr.Text.Filing
import GovernedExpr.Tree.Lisp
import GovernedExpr.Tree.Json

/-!
# Output formats

* `Formatter` writes a tree that may be absent, under the name of a format;
* `Formatter.lisp` and `Formatter.json` are the two built-in ones;
* `OutputSettings` tells which formats are asked for and whether JSON is allowed;
* `FormatRegistry` files formatters under their names, in ascending order; a later formatter takes
  the place of an earlier one of its name;
* `FormatRegistry.render` writes a tree in a format.
-/

namespace GovernedExpr

/-- Why a tree is not written. -/
inductive FormatError
  /-- No formatter has the name. -/
  | notFound (name : String)
  /-- The formatter failed. -/
  | serialization (reason : String)
  deriving DecidableEq

/-- The wording of an error of output. -/
def FormatError.message : FormatError → String
  | notFound name => "Format '" ++ name ++ "' not found"
  | serialization reason => "Serialization error: " ++ reason

/-- A way to write trees. -/
structure Formatter where
  name : String
  description : String
  render : Option Tree → Except FormatError String

namespace Formatter

/-- Indented nested parentheses. -/
def lisp : Formatter :=
  ⟨"LISP_STYLE_AST", "Indented nested-parenthesis tree", fun root => .ok (GovernedExpr.lisp root)⟩

/-- Tagged JSON objects. -/
def json : Formatter :=
  ⟨"JSON", "Tagged JSON tree", fun root => .ok (prettyJson root)⟩

end Formatter

/-- The formats that are asked for, and whether JSON is allowed. -/
structure OutputSettings where
  primaryFormat : String
  secondaryFormat : Option String
  debugFormat : Option String
  jsonExport : Bool
  debugOutput : Bool
  deriving DecidableEq

/-- Formatters in ascending order of their names. -/
structure FormatRegistry where
  formatters : List Formatter
  ascending : formatters.Pairwise fun f g => f.name < g.name

namespace FormatRegistry

/-- No formatter. -/
def empty : FormatRegistry := ⟨[], .nil⟩

/-- File a formatter under its name, in place of an earlier one. -/
def register (r : FormatRegistry) (f : Formatter) : FormatRegistry :=
  ⟨Text.fileBy Formatter.name f r.formatters, Text.pairwise_fileBy r.ascending f⟩

/-- The formatter of a name. -/
def get? (r : FormatRegistry) (name : String) : Option Formatter :=
  r.formatters.find? fun f => f.name = name

/-- Whether a name has a formatter. -/
def has (r : FormatRegistry) (name : String) : Bool :=
  (r.get? name).isSome

/-- The names of the formatters, in ascending order. -/
def names (r : FormatRegistry) : List String :=
  r.formatters.map Formatter.name

/-- Write a tree in the format of a name. -/
def render (r : FormatRegistry) (root : Option Tree) (name : String) :
    Except FormatError String :=
  match r.get? name with
  | some f => f.render root
  | none => .error (.notFound name)

/-- All built-in formatters. -/
def builtin : FormatRegistry :=
  (empty.register .lisp).register .json

/-- The built-in formatters that the settings allow; formats that are asked for but not known are
left out. -/
def ofSettings (settings : OutputSettings) : FormatRegistry :=
  let r := empty.register .lisp
  if settings.jsonExport then r.register .json else r

@[simp] theorem get?_empty (name : String) : empty.get? name = none := rfl

/-- Registering a formatter changes the answer for its name only. -/
theorem get?_register (r : FormatRegistry) (f : Formatter) (name : String) :
    (r.register f).get? name = if name = f.name then some f else r.get? name :=
  Text.find?_fileBy f r.formatters name

end FormatRegistry

end GovernedExpr
