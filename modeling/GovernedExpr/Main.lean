import GovernedExpr.CommandLine.Run

/-!
# The program

Reads the files that a command may need, performs the command, and prints what it prints.
-/

namespace GovernedExpr.CommandLine

/-- What is found at a path that is closed to the reader.  If a directory above it is closed too, then
nothing is seen of it. -/
def viewClosed (path : String) : IO PathView := do
  try
    let found ← IO.FS.realPath path
    return if ← found.isDir then .directory else .closed .permissionDenied
  catch _ => return .unreadable .permissionDenied

/-- What is found at a path.  Where a directory is opened, only the reading fails, and the failure
names no file. -/
def viewPath (path : String) : IO PathView := do
  try
    return .file (← IO.FS.readBinFile path)
  catch
    | .inappropriateType none _ _ => return .directory
    | .inappropriateType _ _ _ => return .unreadable .notDirectory
    | .permissionDenied _ _ _ => viewClosed path
    | .invalidArgument _ _ _ => return .unreadable .nameTooLong
    | _ => return .unreadable .notFound

/-- What is found at the paths that a command may need. -/
def viewFiles (c : Command) : IO Files := do
  match c.directory? with
  | none => return fun _ => .unreadable .notFound
  | some directory =>
    let paths := directory :: Stage.all.map fun stage => below directory stage.fileName
    let views ← paths.mapM fun path => return (path, ← viewPath path)
    return fun path => (views.lookup path).getD (.unreadable .notFound)

/-- How the command line is written. -/
def usageText : String :=
  linesText [
    "Usage: rift [-v] <COMMAND>",
    "",
    "Commands:",
    "  run <expr> [-f <format>] [-g <DIR>] [--strict]  Run an expression through all four stages",
    "  tokens <expr> [-g <DIR>]                        Print the token stream of an expression",
    "  stages [-g <DIR>]                               List the governance of every stage"]

/-- Perform the command that arguments give, and return the exit code. -/
def runProgram (arguments : List String) : IO UInt32 := do
  match Command.ofArguments arguments with
  | .error .usage =>
    IO.eprint usageText
    return 2
  | .error .help =>
    IO.print usageText
    return 0
  | .error .version =>
    IO.print versionText
    return 0
  | .ok command =>
    match command.perform (← viewFiles command) with
    | .ok text =>
      IO.print text
      return 0
    | .error cause =>
      IO.eprintln cause.message
      return 1

end GovernedExpr.CommandLine

/-- The program. -/
def main (arguments : List String) : IO UInt32 :=
  GovernedExpr.CommandLine.runProgram arguments
