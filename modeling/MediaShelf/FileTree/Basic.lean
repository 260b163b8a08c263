import MediaShelf.Path.Basic

/-!
# File trees

A file system as a finite map from locations to directories and files. Paths are looked up as an
operating system does it: every directory on the way must exist, also one that is left again by
two full stops.

## Main definitions

* `Location` — the names from the root down to an entry
* `Entry`, `FileTree` — entries and where they are
* `FileTree.locate` — the location that a path names
* `FileTree.hasEntry`, `FileTree.isDirectory`, `FileTree.isFile` — what is there
* `FileTree.children`, `FileTree.readBytes`, `FileTree.readText` — what is in it
* `FileTree.canonical?` — the plain form of the path of an entry
-/

namespace MediaShelf

/-- The names from the root of the file system down to an entry. -/
abbrev Location := List (List Char)

/-- A directory, or a file with its content and the time of its last change in nanoseconds. -/
inductive Entry where
  | directory
  | file (content : ByteArray) (modified : Nat)

/-- Why the file system refuses something. -/
inductive IoError where
  | notFound
  | notADirectory
  | isADirectory
  | directoryNotEmpty
  | alreadyExists
  | invalidArgument
  | nameTooLong
  | notRegular
  | invalidText
  | permissionDenied
  | storageFull
  | crossesDevices
  deriving DecidableEq, Repr

/-- The wording of an error. -/
def IoError.message : IoError → String
  | notFound => "No such file or directory (os error 2)"
  | notADirectory => "Not a directory (os error 20)"
  | isADirectory => "Is a directory (os error 21)"
  | directoryNotEmpty => "Directory not empty (os error 39)"
  | alreadyExists => "File exists (os error 17)"
  | invalidArgument => "Invalid argument (os error 22)"
  | nameTooLong => "File name too long (os error 36)"
  | notRegular => "the source path is neither a regular file nor a symlink to a regular file"
  | invalidText => "stream did not contain valid UTF-8"
  | permissionDenied => "Permission denied (os error 13)"
  | storageFull => "No space left on device (os error 28)"
  | crossesDevices => "Invalid cross-device link (os error 18)"

/-- A file system: the entries below its root, and the directory where relative paths start. -/
structure FileTree where
  entries : List (Location × Entry) := []
  workingDirectory : Location := []

namespace FileTree

/-- The entry at a location; the root is always a directory. -/
def get? (tree : FileTree) : Location → Option Entry
  | [] => some .directory
  | location => tree.entries.lookup location

/-- The greatest length of a name in bytes. -/
def nameLimit : Nat := 255

/-- The length of a name in bytes. -/
def nameSize (name : List Char) : Nat := name.foldl (fun size c => size + c.utf8Size) 0

/-- Follows the pieces of a path. Empty pieces and full stops stay where they are, two full stops
go up, and whatever is passed must be a directory. -/
def follow (tree : FileTree) (start : Location) : List (List Char) → Except IoError Location
  | [] => .ok start
  | piece :: rest =>
    match tree.get? start with
    | none => .error .notFound
    | some (.file _ _) => .error .notADirectory
    | some .directory =>
      if piece = [] ∨ piece = ['.'] then follow tree start rest
      else if piece = ['.', '.'] then follow tree start.dropLast rest
      else if nameSize piece > nameLimit then .error .nameTooLong
      else follow tree (start ++ [piece]) rest

/-- Where a path starts: at the root or in the working directory. -/
def startOf (tree : FileTree) (path : Path) : Location :=
  if path.isAbsolute then [] else tree.workingDirectory

/-- The location that a path names. Nothing need be there, but the directory above must exist. A
path with a null character names nothing. -/
def locate (tree : FileTree) (path : Path) : Except IoError Location :=
  if path.text.isEmpty then .error .notFound
  else if path.text.contains '\x00' then .error .invalidArgument
  else tree.follow (tree.startOf path) path.pieces

/-- The entry that a path names. -/
def entryAt (tree : FileTree) (path : Path) : Except IoError (Location × Entry) := do
  let location ← tree.locate path
  match tree.get? location with
  | some entry => pure (location, entry)
  | none => throw .notFound

/-- Whether there is anything at the path. -/
def hasEntry (tree : FileTree) (path : Path) : Bool := (tree.entryAt path).isOk

/-- Whether there is a directory at the path. -/
def isDirectory (tree : FileTree) (path : Path) : Bool :=
  match tree.entryAt path with
  | .ok (_, .directory) => true
  | _ => false

/-- Whether there is a file at the path. -/
def isFile (tree : FileTree) (path : Path) : Bool :=
  match tree.entryAt path with
  | .ok (_, .file _ _) => true
  | _ => false

/-- The names of the entries directly below a location. -/
def childNames (tree : FileTree) (location : Location) : List (List Char) :=
  tree.entries.filterMap fun (place, _) =>
    if place.length = location.length + 1 && location.isPrefixOf place then place.getLast? else none

/-- The names of the entries of a directory, in no particular order. -/
def children (tree : FileTree) (path : Path) : Except IoError (List (List Char)) := do
  match ← tree.entryAt path with
  | (location, .directory) => pure (tree.childNames location)
  | (_, .file _ _) => throw .notADirectory

/-- The content of a file. -/
def readBytes (tree : FileTree) (path : Path) : Except IoError ByteArray := do
  match ← tree.entryAt path with
  | (_, .file content _) => pure content
  | (_, .directory) => throw .isADirectory

/-- The content of a text file. -/
def readText (tree : FileTree) (path : Path) : Except IoError String := do
  match String.fromUTF8? (← tree.readBytes path) with
  | some text => pure text
  | none => throw .invalidText

/-- The absolute path of a location. -/
def pathOf (location : Location) : Path := ⟨location.flatMap ('/' :: ·)⟩

/-- The plain absolute path of an entry. -/
def canonical? (tree : FileTree) (path : Path) : Option Path :=
  match tree.entryAt path with
  | .ok ([], _) => some ⟨['/']⟩
  | .ok (location, _) => some (pathOf location)
  | .error _ => none

/-- The plain path of an entry, or the path itself if nothing is there. -/
def canonical (tree : FileTree) (path : Path) : Path := (tree.canonical? path).getD path

end FileTree

end MediaShelf
