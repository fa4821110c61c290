import GovernedExpr.Governance.Error

/-!
# What paths show

* `PathView` is what is found at a path;
* `PathView.text` is the text of a file, or why there is none;
* `below` is the path of a file in a directory.
-/

namespace GovernedExpr

/-- What is found at a path. -/
inductive PathView
  /-- A file with these bytes. -/
  | file (bytes : ByteArray)
  /-- A file that is there but is not to be read. -/
  | closed (cause : FileError)
  | directory
  /-- Neither a file nor a directory is seen. -/
  | unreadable (cause : FileError)

namespace PathView

/-- Whether a directory is found. -/
def isDirectory : PathView → Bool
  | directory => true
  | _ => false

/-- Whether a file is found. -/
def isFile : PathView → Bool
  | file _ => true
  | closed _ => true
  | _ => false

/-- The text of the file that is found. -/
def text : PathView → Except FileError String
  | file bytes =>
    match String.fromUTF8? bytes with
    | some text => .ok text
    | none => .error .notText
  | closed cause => .error cause
  | directory => .error .isDirectory
  | unreadable cause => .error cause

end PathView

/-- What is found at each path. -/
abbrev Files : Type := String → PathView

/-- The path of a file in a directory. -/
def below (directory name : String) : String :=
  if directory.isEmpty || directory.endsWith "/" then directory ++ name
  else directory ++ "/" ++ name

end GovernedExpr
