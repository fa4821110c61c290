/-!
# Arguments of the command line

An argument that begins with a hyphen is an option, unless it is nothing but the hyphen; after an
argument of two hyphens none is.  A setting takes a value: after an equals sign, right after its
letter, or as the next argument.  No option may be given twice to one command.

* `Flag` and `Setting` list the options, `Form` says which of them a command takes;
* `Given` is what arguments give, `Form.read` reads it;
* `Command` lists the commands, `Command.ofArguments` reads one.
-/

namespace GovernedExpr.CommandLine

/-! ### Options -/

/-- An option without a value. -/
inductive Flag
  | verbose
  | strict
  deriving DecidableEq

/-- An option with a value. -/
inductive Setting
  | format
  | governance
  deriving DecidableEq

/-- The long name of a flag. -/
def Flag.name : Flag → String
  | verbose => "verbose"
  | strict => "strict"

/-- The letter of a flag, if it has one. -/
def Flag.letter? : Flag → Option Char
  | verbose => some 'v'
  | strict => none

/-- The long name of a setting. -/
def Setting.name : Setting → String
  | format => "format"
  | governance => "governance"

/-- The letter of a setting. -/
def Setting.letter : Setting → Char
  | format => 'f'
  | governance => 'g'

/-- Why arguments give no command to run. -/
inductive Halt
  /-- They make no sense. -/
  | usage
  /-- They ask for help. -/
  | help
  /-- They ask for the version. -/
  | version
  deriving DecidableEq

/-- What arguments give. -/
structure Given where
  words : List String
  flags : List Flag
  settings : List (Setting × String)
  deriving DecidableEq

namespace Given

/-- Nothing is given. -/
def nothing : Given := ⟨[], [], []⟩

/-- Give a flag. -/
def setFlag (g : Given) (flag : Flag) : Except Halt Given :=
  if g.flags.contains flag then .error .usage else .ok { g with flags := flag :: g.flags }

/-- Give a setting. -/
def set (g : Given) (setting : Setting) (value : String) : Except Halt Given :=
  if (g.settings.lookup setting).isSome then .error .usage
  else .ok { g with settings := (setting, value) :: g.settings }

end Given

/-- What a command takes. -/
structure Form where
  /-- How many words. -/
  words : Nat
  flags : List Flag
  settings : List Setting
  /-- Whether the version may be asked for. -/
  versioned : Bool

namespace Form

/-! ### Single options -/

/-- Read a long option without its hyphens.  A setting is returned if its value is to come. -/
def readLong (form : Form) (g : Given) (option : List Char) :
    Except Halt (Given × Option Setting) :=
  let name := String.ofList (option.takeWhile fun c => c ≠ '=')
  let value := option.dropWhile fun c => c ≠ '='
  match form.settings.find? fun setting => setting.name = name, value with
  | some setting, [] => .ok (g, some setting)
  | some setting, _ :: value => (g.set setting (String.ofList value)).map fun g => (g, none)
  | none, _ :: _ => .error .usage
  | none, [] =>
    match form.flags.find? fun flag => flag.name = name with
    | some flag => (g.setFlag flag).map fun g => (g, none)
    | none =>
      if name = "help" then .error .help
      else if form.versioned && name = "version" then .error .version
      else .error .usage

/-- Read options that are letters behind one hyphen.  What follows the letter of a setting is its
value, after an equals sign or at once; a setting is returned if its value is to come. -/
def readLetters (form : Form) (g : Given) : List Char → Except Halt (Given × Option Setting)
  | [] => .ok (g, none)
  | c :: rest =>
    match form.settings.find? fun setting => setting.letter = c, rest with
    | some setting, [] => .ok (g, some setting)
    | some setting, '=' :: value => (g.set setting (String.ofList value)).map fun g => (g, none)
    | some setting, value => (g.set setting (String.ofList value)).map fun g => (g, none)
    | none, rest =>
      match form.flags.find? fun flag => flag.letter? = some c with
      | some flag => do form.readLetters (← g.setFlag flag) rest
      | none =>
        if c = 'h' then .error .help
        else if form.versioned && c = 'V' then .error .version
        else .error .usage

/-- Give a word, of which a command takes only so many. -/
def addWord (form : Form) (g : Given) (word : String) : Except Halt Given :=
  if g.words.length < form.words then .ok { g with words := g.words ++ [word] } else .error .usage

/-! ### All arguments -/

/-- Read the arguments of a command, the value of a setting being due if one is given. -/
def read (form : Form) (g : Given) (due : Option Setting) : List String → Except Halt Given
  | [] => if due.isSome then .error .usage else .ok g
  | arg :: rest =>
    match due, arg.toList with
    | some _, ['-', '-'] => .error .usage
    | none, ['-', '-'] => rest.foldlM form.addWord g
    | due, '-' :: '-' :: option =>
      if due.isSome then .error .usage
      else
        match form.readLong g option with
        | .error halt => .error halt
        | .ok (g, due) => form.read g due rest
    | due, '-' :: c :: letters =>
      if due.isSome then .error .usage
      else
        match form.readLetters g (c :: letters) with
        | .error halt => .error halt
        | .ok (g, due) => form.read g due rest
    | some setting, _ =>
      match g.set setting arg with
      | .error halt => .error halt
      | .ok g => form.read g none rest
    | none, _ =>
      match form.addWord g arg with
      | .error halt => .error halt
      | .ok g => form.read g none rest

end Form

/-! ### Commands -/

/-- A command. -/
inductive Command
  /-- Run an expression through all stages. -/
  | run (source : String) (format : Option String) (strict : Bool) (governance : Option String)
  /-- List the tokens of an expression. -/
  | tokens (source : String) (governance : Option String)
  /-- List the records of the stages. -/
  | stages (governance : Option String)
  deriving DecidableEq

namespace Command

/-- What stands before the name of a command. -/
def outerForm : Form := ⟨0, [.verbose], [], true⟩

/-- What the command to run an expression takes. -/
def runForm : Form := ⟨1, [.verbose, .strict], [.format, .governance], false⟩

/-- What the command to list tokens takes. -/
def tokensForm : Form := ⟨1, [.verbose], [.governance], false⟩

/-- What the command to list the records takes. -/
def stagesForm : Form := ⟨0, [.verbose], [.governance], false⟩

/-- The names of commands that can be helped with. -/
def helpedNames : List String := ["run", "tokens", "stages", "help"]

/-- Read a command from its name and its arguments. -/
def ofName (name : String) (arguments : List String) : Except Halt Command :=
  if name = "run" then do
    let g ← runForm.read .nothing none arguments
    match g.words with
    | [source] =>
      return run source (g.settings.lookup .format) (g.flags.contains .strict)
        (g.settings.lookup .governance)
    | _ => .error .usage
  else if name = "tokens" then do
    let g ← tokensForm.read .nothing none arguments
    match g.words with
    | [source] => return tokens source (g.settings.lookup .governance)
    | _ => .error .usage
  else if name = "stages" then do
    let g ← stagesForm.read .nothing none arguments
    return stages (g.settings.lookup .governance)
  else if name = "help" then
    match arguments with
    | [] => .error .help
    | [topic] => .error (if helpedNames.contains topic then .help else .usage)
    | _ => .error .usage
  else .error .usage

/-- Read a command: options, then the name of the command, then its own arguments. -/
def ofArgumentsFrom (g : Given) : List String → Except Halt Command
  | [] => .error .usage
  | arg :: rest =>
    match arg.toList with
    | ['-', '-'] => .error .usage
    | '-' :: '-' :: option =>
      match outerForm.readLong g option with
      | .error halt => .error halt
      | .ok (g, _) => ofArgumentsFrom g rest
    | '-' :: c :: letters =>
      match outerForm.readLetters g (c :: letters) with
      | .error halt => .error halt
      | .ok (g, _) => ofArgumentsFrom g rest
    | _ => ofName arg rest

/-- Read a command. -/
def ofArguments (arguments : List String) : Except Halt Command :=
  ofArgumentsFrom .nothing arguments

end Command

end GovernedExpr.CommandLine
