import GovernedExpr.Files.View

/-!
# Trees of files

* `FileTree` is a file, or a directory of named trees;
* `FileTree.insert` adds a tree at a path, and the directories above it;
* `FileTree.files` says what each path shows in a tree.
-/

namespace GovernedExpr

/-- A file, or a directory of named trees. -/
inductive FileTree
  | file (bytes : ByteArray)
  | directory (entries : List (String × FileTree))
  deriving Inhabited

namespace FileTree

/-- The directory without entries. -/
def empty : FileTree := directory []

/-- The names that a path consists of; where it ends in a slash the last one is empty. -/
def names (path : String) : List String := path.splitOn "/"

/-- Add a tree below the names of directories; those that are missing are added too. -/
def insertAt (added : FileTree) : List String → FileTree → FileTree
  | [], _ => added
  | name :: names, tree =>
    let entries :=
      match tree with
      | directory entries => entries
      | file _ => []
    let inner := insertAt added names ((entries.lookup name).getD empty)
    directory ((name, inner) :: entries.filter fun (other, _) => other ≠ name)

/-- Add a tree at a path. -/
def insert (tree : FileTree) (path : String) (added : FileTree) : FileTree :=
  insertAt added ((names path).filter fun name => !name.isEmpty) tree

/-- The greatest number of bytes in a name. -/
def greatestName : Nat := 255

/-- Go down the names of a path from a tree, given the directories above it.  A dot stays, two
dots go up, and no name leads anywhere from a file. -/
def walk (above : List FileTree) : List String → FileTree → PathView
  | [], file bytes => .file bytes
  | [], directory _ => .directory
  | _ :: _, file _ => .unreadable .notDirectory
  | name :: names, directory entries =>
    let tree := directory entries
    if name.isEmpty || name = "." then walk above names tree
    else if name = ".." then
      match above with
      | [] => walk [] names tree
      | outer :: above => walk above names outer
    else if greatestName < name.utf8ByteSize then .unreadable .nameTooLong
    else
      match entries.lookup name with
      | some inner => walk (tree :: above) names inner
      | none => .unreadable .notFound

/-- The greatest number of bytes in a path. -/
def greatestPath : Nat := 4095

/-- What each path shows in a tree. -/
def files (tree : FileTree) : Files := fun path =>
  if path.toList.contains '\x00' then .unreadable .nameHasNul
  else if path.isEmpty then .unreadable .notFound
  else if greatestPath < path.utf8ByteSize then .unreadable .nameTooLong
  else walk [] (names path) tree

end FileTree

end GovernedExpr
