import MediaShelf.Path.Basic
import MediaShelf.Record.Basic

/-!
# Command lines

Switches have a long name behind two hyphens and some a letter behind one; letters may be put
together. A value follows its switch as the next argument or behind an equals sign. Behind two
hyphens alone everything is a word. Arguments are seen to from left to right, so the first that is
wrong, or asks for help, decides.

## Main definitions

* `Kind`, `Switch`, `Level` — what may be given
* `Level.read` — the switches and words among arguments
* `Invocation` and `Invocation.read` — what a command line asks for
-/

namespace MediaShelf.Cli

/-- What a value may be. -/
inductive Kind where
  /-- Any text. -/
  | text
  /-- A path, which is not empty. -/
  | path
  /-- The name of a mode. -/
  | mode
  deriving DecidableEq, Repr

/-- How modes are named on the command line. -/
def modeNames : List (String × Mode) := [("tv", .tvShow), ("film", .film)]

/-- Whether a text is a value of the kind. -/
def Kind.accepts : Kind → String → Bool
  | text, _ => true
  | path, value => !value.isEmpty
  | mode, value => (modeNames.lookup value).isSome

/-- A switch. -/
structure Switch where
  name : String
  letter : Option Char := none
  /-- What its value must be; without it, the switch has no value. -/
  value : Option Kind := none
  /-- Whether it may be given more than once. -/
  repeats : Bool := false
  deriving DecidableEq, Repr

/-- Why a command line is not carried out. -/
inductive Stop where
  /-- Help is asked for. -/
  | help
  /-- The version is asked for. -/
  | version
  | unknownSwitch (text : String)
  | valueMissing (name : String)
  | valueUnexpected (name : String)
  | valueInvalid (name value : String)
  | givenTwice (name : String)
  | unexpectedWord (text : String)
  | wordMissing (name : String)
  | unknownCommand (text : String)
  | commandMissing
  deriving DecidableEq, Repr

/-- The wording of a reason to stop. -/
def Stop.message : Stop → String
  | help => "help"
  | version => "version"
  | unknownSwitch text => "unexpected argument '" ++ text ++ "' found"
  | valueMissing name => "a value is required for '--" ++ name ++ "' but none was supplied"
  | valueUnexpected name => "no value is taken by '--" ++ name ++ "'"
  | valueInvalid name value => "invalid value '" ++ value ++ "' for '" ++ name ++ "'"
  | givenTwice name => "the argument '--" ++ name ++ "' cannot be used multiple times"
  | unexpectedWord text => "unexpected argument '" ++ text ++ "' found"
  | wordMissing name => "the argument <" ++ name ++ "> was not provided"
  | unknownCommand text => "unrecognized subcommand '" ++ text ++ "'"
  | commandMissing => "a subcommand is required"

/-- What may be given to a command. -/
structure Level where
  switches : List Switch
  /-- The words in order, with what each must be. -/
  words : List (String × Kind)
  /-- Whether the first word ends the arguments of this level. -/
  stopsAtWord : Bool := false

/-- What was given to a command. -/
structure Given where
  /-- Switches with their values, which are empty for those without. -/
  switches : List (String × String) := []
  words : List String := []
  deriving DecidableEq, Repr

namespace Given

/-- Whether a switch was given. -/
def has (given : Given) (name : String) : Bool := (given.switches.lookup name).isSome

/-- How often a switch was given. -/
def count (given : Given) (name : String) : Nat :=
  (given.switches.filter (·.1 == name)).length

end Given

namespace Level

/-- Takes up a switch with its value. -/
def takeSwitch (given : Given) (switch : Switch) (value : String) : Except Stop Given := do
  if switch.name == "help" then throw .help
  if switch.name == "version" then throw .version
  if !switch.value.all (·.accepts value) then throw (.valueInvalid switch.name value)
  if given.has switch.name && !switch.repeats then throw (.givenTwice switch.name)
  pure { given with switches := given.switches ++ [(switch.name, value)] }

/-- Takes up a word. -/
def takeWord (level : Level) (given : Given) (word : String) : Except Stop Given :=
  match level.words[given.words.length]? with
  | none => .error (.unexpectedWord word)
  | some (name, kind) =>
    if kind.accepts word then .ok { given with words := given.words ++ [word] }
    else .error (.valueInvalid name word)

/-- Takes up letters behind a hyphen. None of them has a value. -/
def takeLetters (level : Level) : Given → List Char → Except Stop Given
  | given, [] => .ok given
  | given, c :: rest =>
    match level.switches.find? (·.letter == some c) with
    | none => .error (.unknownSwitch (String.ofList ['-', c]))
    | some switch => do takeLetters level (← takeSwitch given switch "") rest

/-- A long name behind two hyphens, and the value behind an equals sign. -/
def longName? (arg : String) : Option (String × Option String) :=
  match arg.toList with
  | '-' :: '-' :: text =>
    let name := String.ofList (text.takeWhile (· != '='))
    match text.dropWhile (· != '=') with
    | [] => some (name, none)
    | _ :: value => some (name, some (String.ofList value))
  | _ => none

/-- Letters behind one hyphen. -/
def letters? (arg : String) : Option (List Char) :=
  match arg.toList with
  | '-' :: c :: rest => if c == '-' then none else some (c :: rest)
  | _ => none

/-- Whether an argument cannot be a value, since it looks like a switch. -/
def isSwitch (arg : String) : Bool := (longName? arg).isSome || (letters? arg).isSome

/-- The switches and words among arguments, behind those that were taken up already, and the
arguments from the word on that ends this level. -/
def readFrom (level : Level) : Given → List String → Except Stop (Given × List String)
  | given, [] => .ok (given, [])
  | given, arg :: rest =>
    if arg == "--" then
      if level.stopsAtWord && !rest.isEmpty then .error (.unexpectedWord (rest.headD ""))
      else do pure (← rest.foldlM level.takeWord given, [])
    else match longName? arg with
      | some (name, attached) =>
        match level.switches.find? (·.name == name) with
        | none => .error (.unknownSwitch arg)
        | some switch =>
          match switch.value, attached with
          | none, none => do readFrom level (← takeSwitch given switch "") rest
          | none, some _ => .error (.valueUnexpected name)
          | some _, some value => do readFrom level (← takeSwitch given switch value) rest
          | some _, none =>
            match rest with
            | [] => .error (.valueMissing name)
            | value :: rest =>
              if isSwitch value then .error (.valueMissing name)
              else do readFrom level (← takeSwitch given switch value) rest
      | none =>
        match letters? arg with
        | some letters => do readFrom level (← level.takeLetters given letters) rest
        | none =>
          if level.stopsAtWord then .ok (given, arg :: rest)
          else do readFrom level (← level.takeWord given arg) rest

/-- The switches and words among arguments. All words must be given. -/
def read (level : Level) (args : List String) : Except Stop (Given × List String) := do
  let (given, rest) ← level.readFrom {} args
  match level.words[given.words.length]? with
  | some (name, _) => throw (.wordMissing name)
  | none => pure (given, rest)

end Level

/-- Switches that may stand in front of a command and behind it. -/
def globalSwitches : List Switch := [
  { name := "config", value := some .path },
  { name := "verbose", letter := some 'v', repeats := true },
  { name := "help", letter := some 'h' }]

/-- What may stand in front of a command. -/
def mainLevel : Level where
  switches := { name := "version", letter := some 'V' } :: globalSwitches
  words := []
  stopsAtWord := true

/-- What may be given to the command that renames files. -/
def renameLevel : Level where
  switches := globalSwitches ++ [
    { name := "mode", value := some .mode },
    { name := "refresh" },
    { name := "dry-run" },
    { name := "yes", letter := some 'y' },
    { name := "copy-to", value := some .path }]
  words := [("DIRECTORY", .path)]

/-- What may be given to the command that shows how a name is read. -/
def parseLevel : Level where
  switches := globalSwitches
  words := [("PATTERN", .text), ("FILE", .text)]

/-- What the command that renames files is to do. -/
structure RenameOptions where
  directory : Path
  /-- The mode of a directory that the configuration does not have. -/
  mode : Option Mode
  refresh : Bool
  dryRun : Bool
  /-- Whether to go on without asking. -/
  yes : Bool
  /-- The directory to copy files into, instead of renaming them. -/
  copyTo : Option Path
  deriving DecidableEq, Repr

/-- A command. -/
inductive Command where
  | rename (options : RenameOptions)
  | parse (pattern file : String)
  deriving DecidableEq, Repr

/-- What a command line asks for. -/
structure Invocation where
  config : Option Path
  verbosity : Nat
  command : Command
  deriving DecidableEq, Repr

/-- The options of the command that renames files. -/
def renameOptions (given : Given) : RenameOptions where
  directory := Path.ofString (given.words.headD "")
  mode := (given.switches.lookup "mode").bind fun name => modeNames.lookup name
  refresh := given.has "refresh"
  dryRun := given.has "dry-run"
  yes := given.has "yes"
  copyTo := (given.switches.lookup "copy-to").map Path.ofString

/-- The names of commands. -/
def commandNames : List String := ["rename", "parse", "help"]

/-- Whether help about a command can be had. -/
def isHelpTopic : List String → Bool
  | [] => true
  | [name] => commandNames.contains name
  | _ => false

/-- A command with its arguments, and what was given with them. -/
def readCommand : List String → Except Stop (Command × Given)
  | [] => .error .commandMissing
  | "rename" :: args => do
    let (given, _) ← renameLevel.read args
    pure (.rename (renameOptions given), given)
  | "parse" :: args => do
    let (given, _) ← parseLevel.read args
    pure (.parse (given.words.headD "") (given.words.getD 1 ""), given)
  | "help" :: topics =>
    .error (if isHelpTopic topics then .help else .unknownCommand (topics.headD ""))
  | name :: _ => .error (.unknownCommand name)

/-- What a command line asks for. A switch behind the command takes the place of the same one in
front of it. -/
def Invocation.read (args : List String) : Except Stop Invocation := do
  let (outer, rest) ← mainLevel.read args
  let (command, inner) ← readCommand rest
  let config := (inner.switches.lookup "config").or (outer.switches.lookup "config")
  pure {
    config := config.map Path.ofString
    verbosity := outer.count "verbose" + inner.count "verbose"
    command }

end MediaShelf.Cli
