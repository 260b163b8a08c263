import MediaShelf.FileTree.Basic

/-!
# Changes of file trees

## Main definitions

* `FileTree.put`, `FileTree.remove`, `FileTree.relocate` — entries at locations
* `Change` — what can be done to a file system
* `FileTree.apply` — does it, as far as it can be done
-/

namespace MediaShelf

namespace FileTree

/-- Puts an entry at a location, in place of what is there. -/
def put (tree : FileTree) (location : Location) (entry : Entry) : FileTree :=
  { tree with entries := tree.entries.filter (·.1 != location) ++ [(location, entry)] }

/-- Removes the entry at a location. -/
def remove (tree : FileTree) (location : Location) : FileTree :=
  { tree with entries := tree.entries.filter (·.1 != location) }

/-- Whether anything is below a location. -/
def hasChildren (tree : FileTree) (location : Location) : Bool :=
  tree.entries.any fun (place, _) => location.isPrefixOf place && place != location

/-- A location moved along with what is above it. -/
def rebase (source target place : Location) : Location :=
  if source.isPrefixOf place then target ++ place.drop source.length else place

/-- Moves the entry at a location with all that is below it, replacing what is at the target. -/
def relocate (tree : FileTree) (source target : Location) : FileTree :=
  if source = target then tree
  else
    { tree with
      entries := (tree.entries.filter (·.1 != target)).map fun (place, entry) =>
        (rebase source target place, entry) }

/-- Makes sure that there is a directory at every piece of a path. What was made stays even if a
later piece cannot be. -/
def makeDirectories (tree : FileTree) (start : Location) :
    List (List Char) → FileTree × Except IoError Unit
  | [] => (tree, .ok ())
  | piece :: rest =>
    if piece = [] ∨ piece = ['.'] then makeDirectories tree start rest
    else if piece = ['.', '.'] then makeDirectories tree start.dropLast rest
    else
      let place := start ++ [piece]
      if nameSize piece > nameLimit then (tree, .error .nameTooLong)
      else match tree.get? place with
      | some .directory => makeDirectories tree place rest
      | some (.file _ _) =>
        -- at the end the file stands where the directory should be, before that in its way
        (tree, .error (if rest.isEmpty then .alreadyExists else .notADirectory))
      | none => makeDirectories (tree.put place .directory) place rest

end FileTree

/-- What can be done to a file system. -/
inductive Change where
  /-- Makes a directory and those above it, as far as they are missing. -/
  | makeDirectory (path : Path)
  /-- Writes a file, in place of its old content. -/
  | write (path : Path) (content : ByteArray)
  /-- Moves an entry; a file at the target is replaced. -/
  | move (source target : Path)
  /-- Copies the content of a file; that of a file at the target is replaced. -/
  | copy (source target : Path)
  /-- Removes a file. -/
  | removeFile (path : Path)
  /-- Removes an empty directory. -/
  | removeDirectory (path : Path)

namespace FileTree

/-- Writes a file at the time `now`. -/
def writeFile (tree : FileTree) (now : Nat) (path : Path) (content : ByteArray) :
    Except IoError FileTree := do
  let location ← tree.locate path
  match tree.get? location with
  | some .directory => throw .isADirectory
  | _ => pure (tree.put location (.file content now))

/-- Moves an entry. A directory replaces nothing but an empty directory and cannot go into itself;
a file does not replace a directory. -/
def moveEntry (tree : FileTree) (source target : Path) : Except IoError FileTree := do
  let (origin, entry) ← tree.entryAt source
  let goal ← tree.locate target
  if origin = goal then pure tree
  else match entry, tree.get? goal with
    | .directory, there =>
      if origin.isPrefixOf goal then throw .invalidArgument
      match there with
      | some (.file _ _) => throw .notADirectory
      | some .directory =>
        if tree.hasChildren goal then throw .directoryNotEmpty
        else pure (tree.relocate origin goal)
      | none => pure (tree.relocate origin goal)
    | .file _ _, some .directory => throw .isADirectory
    | .file _ _, _ => pure (tree.relocate origin goal)

/-- Copies a file at the time `now`, as much of its content as `part` lets through. The target is
emptied before anything is read, so a file copied onto itself ends up empty. -/
def copyFile (tree : FileTree) (now : Nat) (source target : Path)
    (part : ByteArray → ByteArray := id) : Except IoError FileTree := do
  match ← tree.entryAt source with
  | (_, .directory) => throw .notRegular
  | _ =>
    let emptied ← tree.writeFile now target .empty
    emptied.writeFile now target (part (← emptied.readBytes source))

/-- Removes a file. -/
def deleteFile (tree : FileTree) (path : Path) : Except IoError FileTree := do
  match ← tree.entryAt path with
  | (location, .file _ _) => pure (tree.remove location)
  | (_, .directory) => throw .isADirectory

/-- The last piece of a path that is not empty. -/
def lastPiece? (path : Path) : Option (List Char) := path.pieces.reverse.find? (· ≠ [])

/-- Removes an empty directory. It has to be called by its name. -/
def deleteDirectory (tree : FileTree) (path : Path) : Except IoError FileTree := do
  match ← tree.entryAt path with
  | (_, .file _ _) => throw .notADirectory
  | (location, .directory) =>
    if location.isEmpty || lastPiece? path == some ['.'] then throw .invalidArgument
    else if tree.hasChildren location || lastPiece? path == some ['.', '.'] then
      throw .directoryNotEmpty
    else pure (tree.remove location)

/-- The tree with what an operation made of it, or unchanged if it was refused. -/
def settle (tree : FileTree) : Except IoError FileTree → FileTree × Except IoError Unit
  | .ok changed => (changed, .ok ())
  | .error e => (tree, .error e)

/-- Does a change at the time `now`. -/
def apply (tree : FileTree) (now : Nat) : Change → FileTree × Except IoError Unit
  | .makeDirectory path =>
    if path.text.isEmpty then (tree, .ok ())
    else if path.text.contains '\x00' then (tree, .error .invalidArgument)
    else tree.makeDirectories (tree.startOf path) path.pieces
  | .write path content => tree.settle (tree.writeFile now path content)
  | .move source target => tree.settle (tree.moveEntry source target)
  | .copy source target => tree.settle (tree.copyFile now source target)
  | .removeFile path => tree.settle (tree.deleteFile path)
  | .removeDirectory path => tree.settle (tree.deleteDirectory path)

end FileTree

end MediaShelf
