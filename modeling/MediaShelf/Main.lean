import MediaShelf.Cli.Run

/-!
# The program

What a command line needs to know of the file system is read first, into a file tree on which the
whole run is carried out. The changes that the run asks for are made in the end, in their order.
Nothing is fetched over the web here: records come from the ones kept on disk.

## Main definitions

* `observe` — reads what is at a path into a file tree
* `observeFor` — reads all that an invocation needs
* `make` — makes a change
* `main` — carries out a command line
-/

namespace MediaShelf

open IO.FS (Metadata)

/-- What the operating system tells about a name, if there is anything. -/
def statusOf? (name : String) : IO (Option Metadata) := do
  try pure (some (← (System.mkFilePath [name]).metadata)) catch _ => pure none

/-- The name of a location. -/
def nameOf (place : Location) : String :=
  if place.isEmpty then "/" else (FileTree.pathOf place).toString

/-- A time in nanoseconds. -/
def nanosecondsOf (time : IO.FS.SystemTime) : Nat :=
  time.sec.toNat * 1000000000 + time.nsec.toNat

/-- How much of a media file is read. -/
def signatureSize : USize := 8192

/-- The content of a file, or no more of it than tells what kind of file it is. -/
def contentOf (isWhole : Bool) (name : String) : IO ByteArray :=
  if isWhole then IO.FS.readBinFile name
  else IO.FS.withFile name .read fun handle => handle.read signatureSize

/-- Notes what is at a location, and tells whether there is anything. -/
def note (isWhole : Bool) (place : Location) : StateT FileTree IO Bool := do
  match ← statusOf? (nameOf place) with
  | none => pure false
  | some status =>
    let entry ← match status.type with
      | .dir => pure Entry.directory
      | _ =>
        let content ← try contentOf isWhole (nameOf place) catch _ => pure ByteArray.empty
        pure (Entry.file content (nanosecondsOf status.modified))
    modify (·.put place entry)
    pure true

/-- Notes what is on the way along pieces, and gives the location that they lead to. -/
def noteAlong (isWhole : Bool) (place : Location) :
    List (List Char) → StateT FileTree IO (Option Location)
  | [] => pure (some place)
  | piece :: rest => do
    if piece = [] ∨ piece = ['.'] then noteAlong isWhole place rest
    else if piece = ['.', '.'] then noteAlong isWhole place.dropLast rest
    else if ← note isWhole (place ++ [piece]) then noteAlong isWhole (place ++ [piece]) rest
    else pure none

/-- Notes what is below a location. Symbolic links are passed over. -/
partial def noteBelow (isWhole : Bool) (place : Location) : StateT FileTree IO Unit := do
  let entries ← try (System.mkFilePath [nameOf place]).readDir catch _ => pure #[]
  for entry in entries do
    if (← entry.path.symlinkMetadata).type != .symlink then
      let inner := place ++ [entry.fileName.toList]
      if ← note isWhole inner then noteBelow isWhole inner

/-- Reads what is at a path and on the way there, and on demand what is below it. -/
def observe (path : Path) (isWhole isDeep : Bool) : StateT FileTree IO Unit := do
  let start := (← get).startOf path
  if let some place ← noteAlong isWhole start path.pieces then
    if isDeep then noteBelow isWhole place

/-- Reads what renaming the files of a directory needs. -/
def observeLibrary (config : Config) (home : Path) (options : Cli.RenameOptions) :
    StateT FileTree IO Unit := do
  observe (config.cache.dir.getD (Config.defaultCacheDir home)) true true
  for dir in config.mediaDirs do observe dir.root false false
  observe options.directory false true
  match config.mediaDirFor (← get) options.directory with
  | .ok dir => observe dir.root false true
  | .error _ => pure ()
  for output in options.copyTo do observe output false true

/-- Reads what an invocation needs: the settings, and what they and the command point to. -/
def observeFor (invocation : Cli.Invocation) (home : Path) : StateT FileTree IO Unit := do
  observe (invocation.config.getD (Config.defaultPath home)) true false
  match Config.load (← get) home invocation.config, invocation.command with
  | .ok config, .rename options => observeLibrary config home options
  | _, _ => pure ()

/-- Makes a change. -/
def make : Change → IO Unit
  | .makeDirectory path => IO.FS.createDirAll path.toString
  | .write path content => IO.FS.writeBinFile path.toString content
  | .move source target => IO.FS.rename source.toString target.toString
  | .copy source target => do
    IO.FS.writeBinFile target.toString (← IO.FS.readBinFile source.toString)
  | .removeFile path => IO.FS.removeFile path.toString
  | .removeDirectory path => IO.FS.removeDir path.toString

/-- Makes changes in order. A failure is told only where success was foreseen; gives whether there
was none of those. -/
def makeAll : List (Change × Bool) → IO Bool
  | [] => pure true
  | (change, isForeseen) :: changes => do
    let isDone ← try
        make change
        pure true
      catch cause =>
        if isForeseen then IO.eprintln ("Error: " ++ cause.toString)
        pure !isForeseen
    pure ((← makeAll changes) && isDone)

/-- The time on the clock of the file system, as a new file shows it. -/
def currentTime : IO Nat := do
  let (_, path) ← IO.FS.createTempFile
  let status ← path.metadata
  IO.FS.removeFile path
  pure (nanosecondsOf status.modified)

/-- The terminal that the program was started from. -/
def terminal : Cli.Terminal IO where
  out := IO.println
  err := IO.eprintln
  confirm question := do
    IO.eprint (question ++ " [y/n] ")
    (← IO.getStderr).flush
    let answer := Text.lowercase (Text.trim (← (← IO.getStdin).getLine).toList)
    pure (answer = ['y'] || answer = ['y', 'e', 's'])

/-- There is no way to send requests from here. -/
def fetchNothing : TvMaze.Fetch IO := fun address =>
  pure (.error ("error sending request for url (" ++ address ++ ")"))

/-- Carries out a command line and gives the exit status. -/
def runProgram (args : List String) : IO UInt32 := do
  let home := Path.ofString ((← IO.getEnv "HOME").getD "/")
  let working := Path.ofString (← IO.currentDir).toString
  let prepared : StateT FileTree IO Unit := do
    observe working false false
    match Cli.Invocation.read args with
    | .ok invocation => observeFor invocation home
    | .error _ => pure ()
  let (_, tree) ← prepared.run { workingDirectory := working.pieces.drop 1 }
  let disk : Disk := { tree, now := ← currentTime }
  let (status, workspace) ← (Cli.run terminal fetchNothing home args).run { disk }
  let isDone ← makeAll workspace.disk.journal.reverse
  pure (if isDone then status else 1)

end MediaShelf

/-- The media shelf on the command line. -/
def main (args : List String) : IO UInt32 := MediaShelf.runProgram args
