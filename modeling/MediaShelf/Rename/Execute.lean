import MediaShelf.FileTree.Disk
import MediaShelf.Rename.Operation

/-!
# Carrying out renames and copies

Directories on the way to a destination are made. A file that cannot be moved or copied stays as it
is, and the others are still seen to.

## Main definitions

* `Operation.run` — a single operation
* `moveAll`, `copyAll` — operations in order, with the errors that came up
-/

namespace MediaShelf.Rename

/-- Makes the directory that a path lies in. -/
def makeParent (path : Path) : StateM Disk (Except RenameError Unit) :=
  match path.parent? with
  | none => pure (.ok ())
  | some parent => do
    pure ((← Disk.perform (.makeDirectory parent)).mapError (.createDirectoryFailed parent))

/-- Makes the directory of the destination and then the change itself. -/
def Operation.run (op : Operation) (change : Path → Path → Change)
    (failed : Path → Path → IoError → RenameError) : StateM Disk (Except RenameError Unit) := do
  match ← makeParent op.destination with
  | .error e => pure (.error e)
  | .ok () =>
    let result ← Disk.perform (change op.source op.destination)
    pure (result.mapError (failed op.source op.destination))

/-- Runs operations in order and gathers the errors. -/
def runAll (step : Operation → StateM Disk (Except RenameError Unit)) :
    List Operation → StateM Disk (List RenameError)
  | [] => pure []
  | op :: ops => do
    match ← step op with
    | .ok () => runAll step ops
    | .error e => pure (e :: (← runAll step ops))

/-- Moves files to their destinations. -/
def moveAll (ops : List Operation) : StateM Disk (List RenameError) :=
  runAll (·.run .move .moveFailed) ops

/-- Copies files to their destinations, after making the directory `output`. -/
def copyAll (output : Path) (ops : List Operation) :
    StateM Disk (Except RenameError (List RenameError)) := do
  match ← Disk.perform (.makeDirectory output) with
  | .error cause => pure (.error (.disk cause))
  | .ok () => pure (.ok (← runAll (·.run .copy .copyFailed) ops))

end MediaShelf.Rename
