import MediaShelf.FileTree.Disk
import MediaShelf.Rename.Operation

/-!
# Removing emptied directories

## Main definitions

* `Path.parents` — the directories above a path, nearest first
* `pruneEmpty` — removes the directories that files were moved out of, if they are empty
-/

namespace MediaShelf

/-- The first `n` directories above a path. -/
def Path.parentsWithin : Nat → Path → List Path
  | 0, _ => []
  | n + 1, path =>
    match path.parent? with
    | none => []
    | some parent => parent :: parentsWithin n parent

/-- The directories above a path, nearest first. There are no more than the path has
components. -/
def Path.parents (path : Path) : List Path := path.parentsWithin path.components.length

namespace Rename

/-- Whether a directory lies below the root, and not at it. -/
def isBelow (root dir : Path) : Bool := dir.startsWith root && !dir.same root

/-- Whether there is a directory without anything in it. -/
def isEmptyDirectory (tree : FileTree) (dir : Path) : Bool :=
  match tree.children dir with
  | .ok names => names.isEmpty
  | .error _ => false

/-- Removes directories in order, up to the first that is not empty or not below the root. Gives
the removed ones. -/
def pruneUp (root : Path) : List Path → StateM Disk (List Path)
  | [] => pure []
  | dir :: dirs => do
    if isBelow root dir && isEmptyDirectory (← get).tree dir then
      match ← Disk.perform (.removeDirectory dir) with
      | .ok () => pure (dir :: (← pruneUp root dirs))
      | .error _ => pure []
    else pure []

/-- Removes the directories above the sources of operations, as far as they are empty and below
the root. Gives the removed ones. -/
def pruneEmpty (root : Path) : List Operation → StateM Disk (List Path)
  | [] => pure []
  | op :: ops => do
    let removed ← pruneUp root op.source.parents
    pure (removed ++ (← pruneEmpty root ops))

end Rename

end MediaShelf
