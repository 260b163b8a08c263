import MediaShelf.Cli.Arguments
import MediaShelf.Cli.Report
import MediaShelf.Organize.Basic
import MediaShelf.Rename.Execute
import MediaShelf.Rename.Prune
import MediaShelf.Workspace

/-!
# Carrying out command lines

## Main definitions

* `Terminal` — where the program talks to its user
* `Failure` — why a command ends early
* `rename`, `parse` — the two commands
* `run` — carries out a command line and gives the exit status
-/

namespace MediaShelf.Cli

/-- Where the program talks to its user. -/
structure Terminal (n : Type → Type) where
  /-- Writes a line on standard output. -/
  out : String → n Unit
  /-- Writes a line on the error stream. -/
  err : String → n Unit
  /-- Asks a question that is answered by yes or no. -/
  confirm : String → n Bool

/-- Why a command ends early. -/
inductive Failure where
  | config (cause : ConfigError)
  | pattern (cause : Pattern.SyntaxError)
  | scan (cause : ScanError)
  | store (cause : StoreError)
  | rename (cause : RenameError)
  /-- The program breaks off. -/
  | breakdown (cause : Breakdown)

/-- The wording of a failure. -/
def Failure.message : Failure → String
  | config cause => "Configuration error: " ++ cause.message
  | pattern cause => "Pattern error: " ++ cause.message
  | scan cause => "File resolution error: " ++ cause.message
  | store cause => "Store error: " ++ cause.message
  | rename cause => "File operation error: " ++ cause.message
  | breakdown cause => cause.message

/-- What is written on the error stream about a failure. -/
def Failure.report : Failure → String
  | breakdown cause => cause.message
  | failure => "\nError: " ++ failure.message

/-- The exit status after a failure. -/
def Failure.status : Failure → UInt32
  | breakdown _ => 101
  | _ => 1

variable {n : Type → Type} [Monad n] {α : Type}

/-- A command, which changes the workspace and may end early. -/
abbrev Action (n : Type → Type) := ExceptT Failure (StateT Workspace n)

/-- Writes lines on standard output. -/
def sayAll (terminal : Terminal n) : List String → Action n Unit
  | [] => pure ()
  | line :: lines => do
    liftM (terminal.out line)
    sayAll terminal lines

/-- Writes a line on standard output. -/
def say (terminal : Terminal n) (line : String) : Action n Unit := sayAll terminal [line]

/-- The file tree as it is now. -/
def currentTree : Action n FileTree := do pure (← getThe Workspace).disk.tree

/-- A result whose error ends the command. -/
def orFail {ε : Type} (wrap : ε → Failure) : Except ε α → Action n α
  | .ok value => pure value
  | .error e => throw (wrap e)

/-- An effect on the disk whose error ends the command. -/
def disk {ε : Type} (wrap : ε → Failure) (effect : StateM Disk (Except ε α)) : Action n α := do
  orFail wrap (← ExceptT.lift (onDisk effect))

/-- The media directory that a path lies in, or a new one of the given mode with all defaults. -/
def chooseDirectory (config : Config) (tree : FileTree) (options : RenameOptions) :
    Except ConfigError MediaDirectory :=
  match config.mediaDirFor tree options.directory, options.mode with
  | .error _, some mode =>
    ({ root := options.directory, mode } : MediaDirectory.Spec).build
  | found, _ => found

/-- Renames or copies files, and gives the errors that came up. -/
def execute (terminal : Terminal n) (dir : MediaDirectory) (copyTo : Option Path)
    (ops : List Rename.Operation) : Action n (List RenameError) := do
  match copyTo with
  | some output => disk .rename (Rename.copyAll output ops)
  | none =>
    let errors ← ExceptT.lift (onDisk (Rename.moveAll ops))
    if dir.pruneEmptyDirs then
      let removed ← ExceptT.lift (onDisk (Rename.pruneEmpty dir.root ops))
      if !removed.isEmpty then
        say terminal ("Removed " ++ showNat removed.length ++ " empty folder(s).")
    pure errors

/-- Whether to carry out a plan; asks unless the answer was given beforehand. -/
def isConfirmed (terminal : Terminal n) (options : RenameOptions) (count : Nat) :
    Action n Bool :=
  if options.yes then pure true
  else
    let verb := if options.copyTo.isSome then "Copy" else "Rename"
    liftM (terminal.confirm (verb ++ " " ++ showNat count ++ " file(s)?"))

/-- Writes errors on the error stream. -/
def complain (terminal : Terminal n) : List RenameError → Action n Unit
  | [] => pure ()
  | e :: errors => do
    liftM (terminal.err ("Error: " ++ e.message))
    complain terminal errors

/-- Identifies the files of a media directory and renames or copies them. -/
def rename (terminal : Terminal n) (fetch : TvMaze.Fetch n) (home : Path) (config : Config)
    (options : RenameOptions) : Action n Unit := do
  let dir ← orFail .config (chooseDirectory config (← currentTree) options)
  let opened ← orFail .breakdown (← ExceptT.lift (openResolver config home fetch))
  let resolver ← orFail .store opened
  let tell := fun event => liftM (terminal.out (reportEvent event))
  let organized ← ExceptT.lift
    (organize resolver (← currentTree) dir options.refresh tell)
  let outcomes ← orFail .scan organized
  let ops ← orFail .rename (planRenames (← currentTree) dir options.copyTo outcomes)
  if ops.isEmpty then
    if outcomes.any (·.isResolved) then
      say terminal "\nAll identified files are already named correctly."
    else say terminal "\nNothing to do."
  else
    sayAll terminal (reportPlan dir.root ops)
    if options.dryRun then say terminal "Dry run, no files were changed."
    else if !(← isConfirmed terminal options ops.length) then say terminal "Aborted."
    else
      let errors ← execute terminal dir options.copyTo ops
      complain terminal errors
      say terminal ("Successfully processed " ++ showNat (ops.length - errors.length) ++ " of " ++
        showNat ops.length ++ " file(s)!")

/-- Shows how a name is read by a pattern. -/
def parse (terminal : Terminal n) (source file : String) : Action n Unit := do
  let pattern ← orFail .pattern (Pattern.compile source)
  sayAll terminal
    (if pattern.isTv then reportEpisode (pattern.parseEpisode file)
    else reportFilm (pattern.parseFilm file))

/-- What the program is called. -/
def versionText : String := "media-sleuth 0.1.0"

/-- How the program is used. -/
def helpText : String :=
  "Usage: media-sleuth [--config FILE] [-v] COMMAND\n\n" ++
  "Commands:\n" ++
  "  rename DIRECTORY [--mode tv|film] [--refresh] [--dry-run] [-y] [--copy-to DIRECTORY]\n" ++
  "  parse PATTERN FILE"

/-- Answers a command line that is not carried out. -/
def answerStop (terminal : Terminal n) : Stop → n UInt32
  | .help => do
    terminal.out helpText
    pure 0
  | .version => do
    terminal.out versionText
    pure 0
  | stop => do
    terminal.err ("error: " ++ stop.message)
    pure 2

/-- Carries out what a command line asks for. -/
def perform (terminal : Terminal n) (fetch : TvMaze.Fetch n) (home : Path) (config : Config)
    (command : Command) : StateT Workspace n UInt32 := do
  match command with
  | .parse pattern file => report (← (parse terminal pattern file).run)
  | .rename options =>
    if (← get).disk.tree.isDirectory options.directory then
      report (← (rename terminal fetch home config options).run)
    else
      liftM (terminal.err ("Error: Path is not a directory: " ++ options.directory.toString))
      pure 1
where
  /-- The exit status of a command, after its failure was told. -/
  report : Except Failure Unit → StateT Workspace n UInt32
    | .ok () => pure 0
    | .error e => do
      liftM (terminal.err e.report)
      pure e.status

/-- Carries out a command line and gives the exit status. -/
def run (terminal : Terminal n) (fetch : TvMaze.Fetch n) (home : Path) (args : List String) :
    StateT Workspace n UInt32 := do
  match Invocation.read args with
  | .error stop => liftM (answerStop terminal stop)
  | .ok invocation =>
    match Config.load (← get).disk.tree home invocation.config with
    | .error e =>
      liftM (terminal.err ("Error: " ++ e.message))
      pure 1
    | .ok config => perform terminal fetch home config invocation.command

end MediaShelf.Cli
